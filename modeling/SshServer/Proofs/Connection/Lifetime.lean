import SshServer.Proofs.Connection.Routing

/-!
Contract: the life of a connection, from its first open to the last decision.

Owns: that nothing happens before the transport has reported who the peer is; that the first report
counts; when the serving returns, and with what; and that nobody is left waiting then.
Does not own: the routing in between (`Proofs.Connection.Routing`).
-/

namespace SshServer

variable {η τ : Type}

namespace Connection

section Account

variable {handling : Handling η τ} {registry : Registry η} {seen : Dealings τ}
variable {taken left : List (Nat × ChannelOffer)} {replied : List Request}
variable {connection : Connection η τ}

theorem Books.opened_of_taken
    (books : Books handling registry seen taken left replied connection)
    {entry : Nat × ChannelOffer} (isTaken : entry ∈ taken) : entry ∈ seen.opened := by
  rw [books.opened]
  exact List.mem_append_left _ (List.mem_append_left _ isTaken)

/-- Every handler that ever began was given an open that had come in, and the context that was
reported first. -/
theorem Books.began_of_handed
    (books : Books handling registry seen taken left replied connection)
    {task : HandlerTask τ} (member : task ∈ seen.handed) :
    ∃ context, seen.reported.head? = some context ∧
      ∃ entry ∈ seen.opened, Began handling registry context entry task := by
  obtain ⟨entry, isServed, context, known, began⟩ := exists_of_forall₂ books.handed.flip member
  have isOpen := books.opened_of_taken (List.mem_of_mem_filter isServed)
  exact ⟨context, books.identity.symm.trans known, entry, isOpen, began⟩

/-- Before the transport has reported anything, nobody is handed anything, and until the serving
returns nothing is refused or answered. -/
theorem Books.untouched (books : Books handling registry seen taken left replied connection)
    (unknown : seen.reported = []) :
    seen.handed = [] ∧
      ((∀ result, connection.phase ≠ .finished result) →
        connection.phase = .handshake ∧ connection.refused = [] ∧ seen.answered = []) := by
  constructor
  · refine List.eq_nil_iff_forall_not_mem.2 fun task member => ?_
    obtain ⟨context, known, -⟩ := books.began_of_handed member
    rw [unknown] at known
    exact Option.some_ne_none context known.symm
  · intro running
    have identity := books.identity
    rw [unknown] at identity
    cases phase : connection.phase with
    | handshake =>
        obtain ⟨rfl, rfl, rfl⟩ := books.stands.of_handshake phase
        exact ⟨rfl, books.refused, books.answered⟩
    | serving context =>
        have known := (books.stands.of_serving phase).1
        exact absurd (identity.symm.trans known) (Option.some_ne_none context).symm
    | finished result => exact absurd phase (running result)
    | cancelled => exact absurd phase books.stands.not_cancelled

/-- What the serving returns: it has failed exactly if nothing was ever reported. -/
theorem Books.result (books : Books handling registry seen taken left replied connection)
    {result : Except Failure Unit} (finished : connection.phase = .finished result) :
    connection.linked = false ∧
      result = if seen.reported = [] then .error handshakeFailure else .ok () := by
  obtain ⟨⟨isLeft, -⟩, warrants⟩ := books.stands.of_finished finished
  refine ⟨isLeft, warrants.result_eq.trans ?_⟩
  rw [books.identity]
  simp only [List.head?_eq_none_iff]

/-! ### The way to the end -/

/-- How many steps of the serving are left once the link is gone. -/
def remaining (connection : Connection η τ) : Nat :=
  match connection.phase with
  | .handshake => connection.opens.items.toList.length + 2
  | .serving _ => connection.opens.items.toList.length + 1
  | .finished _ | .cancelled => 0

theorem remaining_of_serving {context : Context} (serving : connection.phase = .serving context) :
    connection.remaining = connection.opens.items.toList.length + 1 := by
  unfold remaining
  rw [serving]

theorem remaining_of_handshake (handshake : connection.phase = .handshake) :
    connection.remaining = connection.opens.items.toList.length + 2 := by
  unfold remaining
  rw [handshake]

theorem running_of_remaining (stepsLeft : 0 < connection.remaining) :
    ∀ result, connection.phase ≠ .finished result := by
  intro result finished
  rw [remaining, finished] at stepsLeft
  exact Nat.lt_irrefl 0 stepsLeft

/-- An open less makes the way shorter by a step. -/
theorem remaining_of_take {after : Connection η τ} {context : Context}
    {entry : Nat × ChannelOffer} {opens : Mailbox (Nat × ChannelOffer)}
    (serving : connection.phase = .serving context)
    (isTaken : connection.opens.take? = some (entry, opens))
    (phase : after.phase = connection.phase) (rest : after.opens = opens) :
    after.remaining + 1 = connection.remaining := by
  rw [remaining_of_serving serving, remaining_of_serving (phase.trans serving), rest,
    Mailbox.toList_of_take? isTaken, List.length_cons]

/-- Whatever is done once the link is gone, the way to the end gets no longer. -/
theorem Turn.remaining_le {after : Connection η τ} {shown : Dealings τ}
    (turn : Turn handling connection shown after) (isLeft : connection.linked = false) :
    after.linked = false ∧ after.remaining ≤ connection.remaining := by
  cases turn with
  | link after reported effect =>
      obtain ⟨staysLeft, -, opens, -⟩ := effect.left isLeft
      have same : after.remaining = connection.remaining := by
        rw [remaining, effect.phase, opens, remaining]
      exact ⟨staysLeft, Nat.le_of_eq same⟩
  | began context handshake =>
      refine ⟨isLeft, ?_⟩
      rw [remaining_of_handshake handshake]
      exact Nat.le_succ _
  | failed | ended => exact ⟨isLeft, Nat.zero_le _⟩
  | refused context number offer opens serving isTaken
  | handed context number offer opens handler awaited serving isTaken =>
      exact ⟨isLeft, Nat.le_of_succ_le (Nat.le_of_eq (remaining_of_take serving isTaken rfl rfl))⟩
  | answered | went => exact ⟨isLeft, Nat.le_refl _⟩

theorem dispatch_frame (handling : Handling η τ) (connection : Connection η τ) (context : Context)
    (number : Nat) (offer : ChannelOffer) :
    (connection.dispatch handling context number offer).phase = connection.phase ∧
      (connection.dispatch handling context number offer).opens = connection.opens := by
  unfold dispatch
  split <;> exact ⟨rfl, rfl⟩

theorem Linkage.ended_of_left (linkage : connection.Linkage) (isLeft : connection.linked = false)
    (nothing : connection.opens.take? = none) : connection.opens.ended = true := by
  rw [Mailbox.ended, Fifo.isEmpty_iff.2 (nothing_of_take nothing), (linkage.absent isLeft).1.1]
  rfl

/-- Once the link is gone, every step of the serving leads towards its end. -/
theorem Books.step_remaining
    (books : Books handling registry seen taken left replied connection)
    (isLeft : connection.linked = false) {next : Connection η τ}
    (step : connection.step? handling = some next) : next.remaining < connection.remaining := by
  unfold step? at step
  split at step
  next handshake =>
    rw [remaining_of_handshake handshake]
    split at step
    · obtain rfl := Option.some.inj step
      exact Nat.lt_succ_self _
    · rw [if_neg (isLeft ▸ Bool.false_ne_true)] at step
      obtain rfl := Option.some.inj step
      exact Nat.succ_pos _
  next context serving =>
    split at step
    next number offer opens isTaken =>
      obtain rfl := Option.some.inj step
      obtain ⟨phase, rest⟩ :=
        dispatch_frame handling { connection with opens } context number offer
      exact Nat.lt_of_succ_le (Nat.le_of_eq (remaining_of_take serving isTaken phase rest))
    next nothing =>
      rw [if_pos (books.linkage.ended_of_left isLeft nothing)] at step
      obtain rfl := Option.some.inj step
      rw [remaining_of_serving serving]
      exact Nat.succ_pos _
  · exact absurd step.symm (Option.some_ne_none next)
  · exact absurd step.symm (Option.some_ne_none next)

/-- Once the link is gone, the serving comes to rest only where it has returned. -/
theorem Books.returned_of_left (books : Books handling registry seen taken left replied connection)
    (isLeft : connection.linked = false) (quiet : connection.step? handling = none) :
    ∃ result, connection.phase = .finished result := by
  unfold step? at quiet
  split at quiet
  · split at quiet
    · exact absurd quiet (Option.some_ne_none _)
    · rw [if_neg (isLeft ▸ Bool.false_ne_true)] at quiet
      exact absurd quiet (Option.some_ne_none _)
  · split at quiet
    · exact absurd quiet (Option.some_ne_none _)
    next nothing =>
      rw [if_pos (books.linkage.ended_of_left isLeft nothing)] at quiet
      exact absurd quiet (Option.some_ne_none _)
  next result finished => exact ⟨result, finished⟩
  next cancelled => exact absurd cancelled books.stands.not_cancelled

/-! ### The end of the serving -/

/-- What the end of the serving leaves behind: no handler runs, nobody waits, every open has its
decision, and every request its answer. -/
structure Over (handling : Handling η τ) (seen : Dealings τ) (connection : Connection η τ) :
    Prop where
  handlers : ∀ task ∈ connection.tasks, task.isOver handling = true
  nobodyOpens : connection.opens.blocked = []
  nobodyAsks : connection.globals.box.blocked = []
  decided : ∀ entry ∈ seen.opened, ∃ decision,
    connection.decision? handling entry.1 = some decision
  answered : seen.answered = refusals seen.asked
  replies : (seen.asked.map Request.reply).Nodup ∧
    ∀ request ∈ seen.asked, request.reply.isSome = true

theorem Books.all_over (books : Books handling registry seen taken left replied connection)
    {result : Except Failure Unit} (finished : connection.phase = .finished result) :
    connection.Over handling seen := by
  obtain ⟨⟨isLeft, noOpens, noAsks, allOver⟩, -⟩ := books.stands.of_finished finished
  obtain ⟨-, nobodyOpens, nobodyAsks⟩ := books.linkage.absent isLeft
  refine ⟨allOver, nobodyOpens, nobodyAsks, fun entry isOpen => ?_, ?_, books.asksInOrder.nodup,
    books.asksInOrder.wantsReply⟩
  · rw [books.opened, noOpens, List.append_nil] at isOpen
    rcases List.mem_append.1 isOpen with isTaken | wasLeft
    · cases served : registry.serves entry with
      | false => exact ⟨_, books.decision_of_unserved isTaken served⟩
      | true =>
          obtain ⟨task, member, isNumber⟩ := books.exists_task isTaken served
          rw [← isNumber, books.decision_of_task member]
          exact HandlerTask.decided_of_over (allOver task member)
    · exact ⟨_, books.decision_of_left wasLeft⟩
  · rw [books.answered, books.asked, noAsks, List.append_nil]

/-- The serving returns by its own end, and not by anything that others do. -/
theorem Turn.ends {after : Connection η τ} {shown : Dealings τ}
    (turn : Turn handling connection shown after)
    (running : ∀ result, connection.phase ≠ .finished result) {result : Except Failure Unit}
    (finished : after.phase = .finished result) :
    ∃ phase, after = connection.finish handling phase := by
  cases turn with
  | link after reported effect => exact absurd (effect.phase.symm.trans finished) (running result)
  | began => exact nomatch finished
  | failed | ended => exact ⟨_, rfl⟩
  | refused | handed | answered | went => exact absurd finished (running result)

/-- A serving that has returned stays so. -/
theorem Turn.stays_over {after : Connection η τ} {shown : Dealings τ}
    (turn : Turn handling connection shown after) {result : Except Failure Unit}
    (finished : connection.phase = .finished result) : after.phase = .finished result := by
  cases turn with
  | link after reported effect => exact effect.phase.trans finished
  | began context handshake => exact nomatch finished.symm.trans handshake
  | failed handshake => exact nomatch finished.symm.trans handshake
  | refused context _ _ _ serving | handed context _ _ _ _ _ serving | ended context serving
  | answered context _ _ serving => exact nomatch finished.symm.trans serving
  | went => exact finished

theorem over_run {result : Except Failure Unit} (finished : connection.phase = .finished result)
    (later : List (ConnectionAct handling)) :
    (connection.runBy later).phase = .finished result :=
  runFrom_induction stepBy (fun connection => connection.phase = .finished result)
    (fun connection act stays => (connection.stepBy_turn act).stays_over stays) finished later

theorem Books.left_of_running
    (books : Books handling registry seen taken left replied connection)
    (running : ∀ result, connection.phase ≠ .finished result) : left = [] := by
  cases phase : connection.phase with
  | handshake => exact (books.stands.of_handshake phase).2.1
  | serving context => exact (books.stands.of_serving phase).2
  | finished result => exact absurd phase (running result)
  | cancelled => exact absurd phase books.stands.not_cancelled

theorem Books.known_of_reported
    (books : Books handling registry seen taken left replied connection)
    (reported : seen.reported ≠ []) : connection.identity.isSome = true := by
  rw [books.identity]
  cases heard : seen.reported with
  | nil => exact absurd heard reported
  | cons first rest => rfl

/-- Where somebody has been reported, a further report does nothing. -/
theorem stepBy_authenticate_again (connection : Connection η τ)
    (known : connection.identity.isSome = true) (context : Context) :
    connection.stepBy (.link (.authenticate context) : ConnectionAct handling) = connection := by
  obtain ⟨first, isFirst⟩ := Option.isSome_iff_exists.1 known
  show connection.stepOfLink (.authenticate context) = connection
  unfold stepOfLink performLink authenticate
  split
  · rw [isFirst]
  · rfl

end Account

/-- Whatever order the transport reports, opens, asks and leaves in, and whatever handlers do.
Before the first report nothing is handed over, refused or answered; later reports do nothing, and
every handler is given the context of the first. The serving returns only after the link is gone,
with a failure exactly if nothing was ever reported; and then it does return, since each of its
steps leads towards that and nothing leads away. When it returns, every open that is undecided
counts as abandoned; then no handler runs, nobody waits, and every open has its decision and every
request its refusal. No decision is ever taken back. What the connection does on its own is among
all this. -/
theorem served_until_left {handling : Handling η τ} (lawful : handling.Lawful)
    (registry : Registry η) (acts : List (ConnectionAct handling)) :
    let start : Connection η τ := { handlers := registry }
    let connection := start.runBy acts
    let seen := start.dealings acts
    (seen.reported = [] → seen.handed = [] ∧
        ((∀ result, connection.phase ≠ .finished result) →
          connection.phase = .handshake ∧ connection.refused = [] ∧ seen.answered = [])) ∧
      (connection.identity = seen.reported.head? ∧
        (seen.reported ≠ [] → ∀ context,
          connection.stepBy (.link (.authenticate context) : ConnectionAct handling) =
            connection) ∧
        ∀ task ∈ seen.handed, ∃ context, seen.reported.head? = some context ∧
          ∃ entry ∈ seen.opened, Began handling registry context entry task) ∧
      (∀ result, connection.phase = .finished result →
        connection.linked = false ∧
          (result = if seen.reported = [] then .error handshakeFailure else .ok ()) ∧
          connection.Over handling seen ∧
          ∀ later : List (ConnectionAct handling),
            (connection.runBy later).phase = .finished result) ∧
      (connection.linked = false →
        (connection.step? handling = none → ∃ result, connection.phase = .finished result) ∧
          (∀ next, connection.step? handling = some next →
            next.remaining < connection.remaining) ∧
          ∀ act : ConnectionAct handling, (connection.stepBy act).linked = false ∧
            (connection.stepBy act).remaining ≤ connection.remaining) ∧
      (∀ act : ConnectionAct handling,
        (∀ number decision, connection.decision? handling number = some decision →
            (connection.stepBy act).decision? handling number = some decision) ∧
          ((∀ result, connection.phase ≠ .finished result) →
            ∀ result, (connection.stepBy act).phase = .finished result →
              ∀ entry ∈ seen.opened, (connection.stepBy act).decision? handling entry.1 =
                some ((connection.decision? handling entry.1).getD (.error .abandoned)))) ∧
      ∀ next, connection.advance? handling = some next →
        ∃ own : List (ConnectionAct handling), start.runBy (acts ++ own) = next := by
  intro start connection seen
  obtain ⟨taken, left, replied, books⟩ := books_run registry acts
  refine ⟨books.untouched, ⟨books.identity, fun reported context => ?_, fun task member =>
      books.began_of_handed member⟩, fun result finished => ?_,
    fun isLeft => ⟨books.returned_of_left isLeft, fun next => books.step_remaining isLeft,
      fun act => (connection.stepBy_turn act).remaining_le isLeft⟩,
    fun act => ⟨fun number decision decided => ?_, fun running result finished entry isOpen => ?_⟩,
    fun next => own_among_runs lawful registry acts⟩
  · exact connection.stepBy_authenticate_again (books.known_of_reported reported) context
  · obtain ⟨isLeft, outcome⟩ := books.result finished
    exact ⟨isLeft, outcome, books.all_over finished, over_run finished⟩
  · obtain ⟨_, _, _, booksLater⟩ := books.turn (connection.stepBy_turn act)
    exact booksLater.decision_stays ((connection.stepBy_turn act).succeeds lawful) decided
  · obtain ⟨_, _, _, booksLater⟩ := books.turn (connection.stepBy_turn act)
    obtain ⟨phase, isEnd⟩ := (connection.stepBy_turn act).ends running finished
    obtain rfl := books.left_of_running running
    exact books.decision_of_finish lawful isEnd booksLater isOpen

/-- Somebody leaves while an open waits and a handler has decided nothing; and somebody leaves whom
nobody has authenticated. -/
theorem served_until_left_by_actors :
    let registry : Registry Rehearsal.Cast :=
      .ofList [("echo", .other .echo), ("never", .other .never)]
    let start : Connection Rehearsal.Cast Rehearsal.Actor := { handlers := registry }
    let alice : Context := ⟨"alice", default, default, 0, none⟩
    let bob : Context := ⟨"bob", default, default, 0, none⟩
    let own := Rehearsal.Actor.lawful.ownMove
    let waiting : List (ConnectionAct Rehearsal.Actor.handling) :=
      [.link (.announce 0 ⟨"never", .empty⟩), .link (.request 0 "keepalive" .empty)]
    let failing := waiting ++ [.link .leave, .serve .handshake]
    let leaving := waiting ++
      [.link (.authenticate alice), .link (.authenticate bob), .link (.announce 0 ⟨"echo", .empty⟩),
        .serve .handshake, .serve .opens, .handler 0 own, .link .leave]
    let taking := leaving ++ [.serve .opens, .handler 1 own]
    let ending := taking ++ [.serve .opens]
    let unknown := start.runBy waiting
    let failed := start.runBy failing
    let left := start.runBy leaving
    let taken := start.runBy taking
    let ended := start.runBy ending
    ((start.dealings waiting).handed = [] ∧ unknown.phase = .handshake ∧ unknown.refused = []) ∧
      failed.phase = .finished (.error handshakeFailure) ∧
      (left.linked = false ∧ left.identity = some alice ∧
        left.stepBy (.link (.authenticate bob) : ConnectionAct Rehearsal.Actor.handling) = left ∧
        ∃ task ∈ (start.dealings leaving).handed, ∃ entry ∈ (start.dealings leaving).opened,
          Began Rehearsal.Actor.handling registry alice entry task) ∧
      (∃ next, left.step? Rehearsal.Actor.handling = some next ∧
        next.remaining < left.remaining) ∧
      (∃ next, left.advance? Rehearsal.Actor.handling = some next ∧
        ∃ later, start.runBy (leaving ++ later) = next) ∧
      (taken.decision? Rehearsal.Actor.handling 0 = none ∧
        ended.decision? Rehearsal.Actor.handling 0 = some (.error .abandoned)) ∧
      (taken.decision? Rehearsal.Actor.handling 1 = some (.ok ()) ∧
        ended.decision? Rehearsal.Actor.handling 1 = some (.ok ())) ∧
      ended.phase = .finished (.ok ()) ∧
      ended.Over Rehearsal.Actor.handling (start.dealings ending) := by
  intro registry start alice bob own waiting failing leaving taking ending unknown failed left taken
    ended
  -- the states stay as runs, so that nothing evaluates them but the kernel
  unfold unknown failed left taken ended
  have life := served_until_left Rehearsal.Actor.lawful registry
  have untouched := (life waiting).1 (by decide +kernel)
  have atHandshake := untouched.2 (running_of_remaining (by decide +kernel))
  have failedLeft : (start.runBy failing).linked = false := by decide +kernel
  obtain ⟨failure, hasFailed⟩ := ((life failing).2.2.2.1 failedLeft).1
    (Option.isNone_iff_eq_none.1 (by decide +kernel))
  have isFailure := ((life failing).2.2.1 failure hasFailed).2.1
  rw [if_pos (by decide +kernel)] at isFailure
  have isLeft : (start.runBy leaving).linked = false := by decide +kernel
  have isAlice : (start.runBy leaving).identity = some alice := by decide +kernel
  have unheard := (life leaving).2.1.2.1 (by decide +kernel) bob
  obtain ⟨task, isFirst⟩ : ∃ task, (start.dealings leaving).handed.head? = some task :=
    Option.isSome_iff_exists.1 (by decide +kernel)
  have handed := List.mem_of_head? isFirst
  obtain ⟨context, reported, entry, isOpen, began⟩ := (life leaving).2.1.2.2 task handed
  have isContext : alice = context :=
    Option.some.inj (isAlice.symm.trans ((life leaving).2.1.1.trans reported))
  obtain ⟨next, steps⟩ : ∃ next, (start.runBy leaving).step? Rehearsal.Actor.handling = some next :=
    Option.isSome_iff_exists.1 (by decide +kernel)
  have shorter := ((life leaving).2.2.2.1 isLeft).2.1 next steps
  obtain ⟨other, advances⟩ :
      ∃ next, (start.runBy leaving).advance? Rehearsal.Actor.handling = some next :=
    Option.isSome_iff_exists.1 (by decide +kernel)
  have among := (life leaving).2.2.2.2.2 other advances
  have accepted : (start.runBy taking).decision? Rehearsal.Actor.handling 1 = some (.ok ()) := by
    decide +kernel
  have undecided : (start.runBy taking).decision? Rehearsal.Actor.handling 0 = none :=
    Option.isNone_iff_eq_none.1 (by decide +kernel)
  have endedLeft : (start.runBy ending).linked = false := by decide +kernel
  obtain ⟨result, finished⟩ := ((life ending).2.2.2.1 endedLeft).1
    (Option.isNone_iff_eq_none.1 (by decide +kernel))
  obtain ⟨-, isResult, isOver, -⟩ := (life ending).2.2.1 result finished
  rw [if_neg (by decide +kernel)] at isResult
  have last := runBy_snoc start taking (.serve .opens)
  have final := (life taking).2.2.2.2.1 (.serve .opens)
  rw [← last] at final
  have stays := final.1 1 _ accepted
  have abandoned := final.2 (running_of_remaining (by decide +kernel)) result finished
    (0, ⟨"never", .empty⟩) (by decide +kernel)
  rw [undecided] at abandoned
  subst isFailure isResult isContext
  exact ⟨⟨untouched.1, atHandshake.1, atHandshake.2.1⟩, hasFailed,
    ⟨isLeft, isAlice, unheard, task, handed, entry, isOpen, began⟩, ⟨next, steps, shorter⟩,
    ⟨other, advances, among⟩, ⟨undecided, abandoned⟩, ⟨accepted, stays⟩, finished, isOver⟩

end Connection

end SshServer
