import SshServer.Proofs.Connection.Outcomes

/-!
Contract: what a connection does on its own is among its runs.

Owns: that each step of the serving is one of its turns, and that a step of all handlers is a step
of each in turn.
Does not own: what follows for the runs.

Left to itself the serving hears opens before requests, and requests before the ends of handlers,
and every handler that can go on makes a step. That is one order of many.
-/

namespace SshServer

variable {η τ : Type} {handling : Handling η τ}

/-! ### Moves by a handler's own rules -/

namespace HandlerTask

theorem move_own (lawful : handling.Lawful) (task : HandlerTask τ) :
    task.move lawful.ownMove =
      ((Connection.stepTask? handling task).map Prod.fst).getD task := by
  unfold HandlerTask.move Connection.stepTask?
  split
  · rfl
  · show ({ task with state := ((handling.step? task.state).map Prod.fst).getD task.state } :
      HandlerTask τ) = _
    cases handling.step? task.state with
    | none => rfl
    | some pair => rfl

theorem moveRemarks_own (lawful : handling.Lawful) (task : HandlerTask τ) :
    task.moveRemarks lawful.ownMove =
      ((Connection.stepTask? handling task).map Prod.snd).getD [] := by
  unfold HandlerTask.moveRemarks Connection.stepTask?
  split
  · rfl
  · show ((handling.step? task.state).map Prod.snd).getD [] = _
    cases handling.step? task.state with
    | none => rfl
    | some pair => rfl

end HandlerTask

namespace Connection

section Distinct

variable {before rest : List (HandlerTask τ)} {task : HandlerTask τ}

theorem others_of_distinct (distinct : ((before ++ task :: rest).map HandlerTask.number).Nodup) :
    (∀ other ∈ before, (other.number == task.number) = false) ∧
      ∀ other ∈ rest, (other.number == task.number) = false := by
  rw [List.map_append, List.map_cons, List.nodup_append, List.nodup_cons] at distinct
  constructor
  · intro other member
    exact beq_false_of_ne
      (distinct.2.2 _ (List.mem_map_of_mem member) _ List.mem_cons_self)
  · intro other member
    refine beq_false_of_ne fun same => distinct.2.1.1 ?_
    rw [← same]
    exact List.mem_map_of_mem member

/-- A change to the tasks of one number changes the one task that has it. -/
theorem map_of_distinct (distinct : ((before ++ task :: rest).map HandlerTask.number).Nodup)
    (change : HandlerTask τ → HandlerTask τ) :
    ((before ++ task :: rest).map fun other =>
        if other.number == task.number then change other else other) =
      before ++ change task :: rest := by
  obtain ⟨earlier, later⟩ := others_of_distinct distinct
  have unchanged : ∀ tasks : List (HandlerTask τ),
      (∀ other ∈ tasks, (other.number == task.number) = false) →
      (tasks.map fun other => if other.number == task.number then change other else other) =
        tasks := by
    intro tasks others
    refine (List.map_congr_left fun other member => ?_).trans (List.map_id tasks)
    rw [others other member, if_neg Bool.false_ne_true]
    rfl
  rw [List.map_append, List.map_cons, unchanged before earlier, unchanged rest later,
    if_pos (beq_self_eq_true _)]

/-- What is gathered from the tasks of one number is gathered from the one task that has it. -/
theorem flatMap_of_distinct (distinct : ((before ++ task :: rest).map HandlerTask.number).Nodup)
    (remarks : HandlerTask τ → List LogEntry) :
    ((before ++ task :: rest).flatMap fun other =>
        if other.number == task.number then remarks other else []) = remarks task := by
  obtain ⟨earlier, later⟩ := others_of_distinct distinct
  have silent : ∀ tasks : List (HandlerTask τ),
      (∀ other ∈ tasks, (other.number == task.number) = false) →
      (tasks.flatMap fun other => if other.number == task.number then remarks other else []) =
        [] := by
    intro tasks others
    refine List.flatMap_eq_nil_iff.2 fun other member => ?_
    rw [others other member, if_neg Bool.false_ne_true]
  rw [List.flatMap_append, List.flatMap_cons, silent before earlier, silent rest later,
    if_pos (beq_self_eq_true _), List.nil_append, List.append_nil]

end Distinct

/-- Where one handler after another makes a move, all of them do. -/
theorem runBy_moves (move : handling.Move) (connection : Connection η τ)
    (before rest : List (HandlerTask τ)) (tasks : connection.tasks = before ++ rest)
    (distinct : (connection.tasks.map HandlerTask.number).Nodup) :
    connection.runBy (rest.map fun task => .handler task.number move) =
      { connection with
        tasks := before ++ rest.map (HandlerTask.move · move)
        log := connection.log ++ rest.flatMap (HandlerTask.moveRemarks · move) } := by
  induction rest generalizing connection before with
  | nil =>
      show connection = _
      rw [List.map_nil, ← tasks, List.flatMap_nil, List.append_nil]
  | cons task rest inductionHypothesis =>
      have first : connection.stepBy (.handler task.number move) =
          { connection with
            tasks := before ++ task.move move :: rest
            log := connection.log ++ task.moveRemarks move } := by
        rw [tasks] at distinct
        show connection.moveHandler task.number move = _
        unfold moveHandler
        rw [tasks, map_of_distinct distinct, flatMap_of_distinct distinct]
      have sameNumbers : ((before ++ task.move move :: rest).map HandlerTask.number) =
          (before ++ task :: rest).map HandlerTask.number := by
        rw [List.map_append, List.map_cons, (task.move_goesOn move).number, List.map_append,
          List.map_cons]
      show (connection.stepBy (.handler task.number move)).runBy _ = _
      rw [first, inductionHypothesis _ (before ++ [task.move move])]
      · simp only [List.map_cons, List.flatMap_cons, List.append_assoc, List.singleton_append]
      · simp only [List.append_assoc, List.singleton_append]
      · rw [tasks] at distinct
        show ((before ++ task.move move :: rest).map HandlerTask.number).Nodup
        rw [sameNumbers]
        exact distinct

/-- A step of all handlers is a step of each in turn. -/
theorem runBy_of_stepTasks (lawful : handling.Lawful) {connection next : Connection η τ}
    (distinct : (connection.tasks.map HandlerTask.number).Nodup)
    (step : connection.stepTasks? handling = some next) :
    connection.runBy
      (connection.tasks.map fun task => .handler task.number lawful.ownMove) = next := by
  rw [runBy_moves lawful.ownMove connection [] connection.tasks rfl distinct]
  unfold stepTasks? at step
  dsimp only at step
  split at step
  · exact absurd step.symm (Option.some_ne_none next)
  · rw [← Option.some.inj step, List.map_map, List.flatMap_map]
    simp only [HandlerTask.move_own, HandlerTask.moveRemarks_own, List.nil_append]
    rfl

/-! ### The serving -/

theorem find_of_also {α : Type} {items : List α} {holds also : α → Bool} {item : α}
    (found : items.find? holds = some item) (isSo : also item = true) :
    (items.find? fun other => holds other && also other) = some item := by
  obtain ⟨isHeld, before, after, rfl, none⟩ := List.find?_eq_some_iff_append.1 found
  refine List.find?_eq_some_iff_append.2 ⟨?_, before, after, rfl, fun other member => ?_⟩
  · rw [isHeld, isSo]
    rfl
  · rw [Bool.not_and, none other member]
    rfl

/-- The serving hears first of the handler that has been over for longest, as it stands in line. -/
theorem hearEnd_of_noticeEnd {connection next : Connection η τ}
    (noticed : connection.noticeEnd? handling = some next) :
    ∃ number, connection.hearEnd? handling number = some next := by
  unfold noticeEnd? at noticed
  split at noticed
  · exact absurd noticed.symm (Option.some_ne_none next)
  next ended found =>
    refine ⟨ended.number, ?_⟩
    unfold hearEnd?
    rw [find_of_also found (beq_self_eq_true ended.number)]
    exact noticed

theorem stepBy_of_turn {connection next : Connection η τ} {turn : ServeTurn}
    (heard : connection.turn? handling turn = some next) :
    ∃ own : List (ConnectionAct handling), connection.runBy own = next := by
  refine ⟨[.serve turn], ?_⟩
  show (connection.turn? handling turn).getD connection = next
  rw [heard]
  rfl

/-- Each step of the serving is one of its turns. -/
theorem runBy_of_step {connection next : Connection η τ}
    (step : connection.step? handling = some next) :
    ∃ own : List (ConnectionAct handling), connection.runBy own = next := by
  have unfolded := step
  unfold step? at unfolded
  split at unfolded
  next phase =>
    have heard : connection.turn? handling .handshake = some next := by
      simp only [turn?, phase]
      exact step
    exact stepBy_of_turn heard
  next context phase =>
    have opens : connection.hearOpens? handling context = some next →
        connection.turn? handling .opens = some next := by
      intro heard
      simp only [turn?, phase]
      exact heard
    split at unfolded
    next number offer rest taken =>
      refine stepBy_of_turn (opens ?_)
      unfold hearOpens?
      rw [taken]
      exact unfolded
    next nothing =>
      split at unfolded
      next isEnded =>
        refine stepBy_of_turn (opens ?_)
        unfold hearOpens?
        rw [nothing]
        dsimp only
        rw [if_pos isEnded]
        exact unfolded
      · split at unfolded
        next request globals taken =>
          have hears : connection.hearGlobals? = some next := by
            unfold hearGlobals?
            rw [taken]
            exact unfolded
          have heard : connection.turn? handling .globals = some next := by
            simp only [turn?, phase]
            exact hears
          exact stepBy_of_turn heard
        · obtain ⟨number, ends⟩ := hearEnd_of_noticeEnd unfolded
          have heard : connection.turn? handling (.ended number) = some next := by
            simp only [turn?, phase]
            exact ends
          exact stepBy_of_turn heard
  · exact absurd unfolded.symm (Option.some_ne_none next)
  · exact absurd unfolded.symm (Option.some_ne_none next)

/-- Whatever a connection does on its own is among its runs. -/
theorem runBy_of_advance (lawful : handling.Lawful) {connection next : Connection η τ}
    (distinct : (connection.tasks.map HandlerTask.number).Nodup)
    (advances : connection.advance? handling = some next) :
    ∃ own : List (ConnectionAct handling), connection.runBy own = next := by
  unfold advance? at advances
  cases step : connection.step? handling with
  | some other =>
      rw [step] at advances
      obtain rfl : other = next := Option.some.inj advances
      exact runBy_of_step step
  | none =>
      rw [step] at advances
      exact ⟨_, runBy_of_stepTasks lawful distinct advances⟩

/-- What a connection does on its own after a run makes a longer run. -/
theorem own_among_runs (lawful : handling.Lawful) (registry : Registry η)
    (acts : List (ConnectionAct handling)) {next : Connection η τ}
    (advances : (runBy { handlers := registry } acts).advance? handling = some next) :
    ∃ own : List (ConnectionAct handling),
      runBy { handlers := registry } (acts ++ own) = next := by
  obtain ⟨_, _, _, books⟩ := books_run registry acts
  obtain ⟨own, same⟩ := runBy_of_advance lawful books.tasks_nodup advances
  exact ⟨own, (runBy_append _ acts own).trans same⟩

end Connection

end SshServer
