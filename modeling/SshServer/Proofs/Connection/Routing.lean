import SshServer.Proofs.Connection.Actors
import SshServer.Proofs.Connection.Own

/-!
Contract: an authenticated connection routes every open, and nothing that a handler does reaches
beyond its own channel.

Owns: when a connection has settled; what alone an operation of a handler changes; and what has
become of every open and of every request about the connection once it has settled.
Does not own: a connection that nobody has authenticated, or whose link is gone
(`Proofs.Connection.Lifetime`).
-/

namespace SshServer

variable {η τ : Type}

namespace Connection

/-! ### Settled connections -/

variable (handling : Handling η τ) in
/-- The serving hears nothing new, and nobody who waits for room can go on. -/
structure Settled (connection : Connection η τ) : Prop where
  serving : connection.step? handling = none
  opens : ∀ entry ∈ connection.opens.blocked, (connection.opens.retry entry.1).2 = .waiting
  globals : ∀ entry ∈ connection.globals.box.blocked,
    (connection.globals.retry entry.1).2 = .waiting

section Account

variable {handling : Handling η τ} {registry : Registry η} {seen : Dealings τ}
variable {taken left : List (Nat × ChannelOffer)} {replied : List Request}
variable {connection : Connection η τ}

/-- Where there is room, the first one who waits goes on. -/
theorem nobody_of_room {α : Type} {box : Mailbox α} (room : 0 < box.capacity)
    (nothing : box.items.toList = [])
    (waits : ∀ entry ∈ box.blocked, (box.retry entry.1).2 = .waiting) : box.blocked = [] := by
  cases blocked : box.blocked with
  | nil => rfl
  | cons first rest =>
      obtain ⟨sender, item⟩ := first
      have hasRoom : box.hasRoom = true := by
        have noItems : box.items.length = 0 := by rw [← Fifo.length_toList, nothing]; rfl
        rw [Mailbox.hasRoom, noItems]
        exact decide_eq_true room
      have firstWaits := waits (sender, item) (blocked ▸ List.mem_cons_self)
      unfold Mailbox.retry at firstWaits
      split at firstWaits
      · exact nomatch firstWaits
      · rw [blocked] at firstWaits
        simp only [hasRoom, and_self, if_true] at firstWaits
        exact nomatch firstWaits

theorem nothing_of_take {α : Type} {box : Mailbox α} (nothing : box.take? = none) :
    box.items.toList = [] := by
  unfold Mailbox.take? at nothing
  exact Fifo.pop?_eq_none_iff.1 (Option.map_eq_none_iff.1 nothing)

/-- What a serving has come to that hears nothing new while its link is there. -/
structure AtRest (context : Context) (connection : Connection η τ) : Prop where
  phase : connection.phase = .serving context
  noOpens : connection.opens.items.toList = []
  nobodyOpens : connection.opens.blocked = []
  noAsks : connection.globals.box.items.toList = []
  nobodyAsks : connection.globals.box.blocked = []

theorem Books.atRest (books : Books handling registry seen taken left replied connection)
    (settled : connection.Settled handling) (linked : connection.linked = true)
    {context : Context} (known : connection.identity = some context) :
    connection.AtRest context := by
  have quiet := settled.serving
  unfold step? at quiet
  cases phase : connection.phase with
  | handshake =>
      rw [phase, known] at quiet
      exact absurd quiet (Option.some_ne_none _)
  | finished result =>
      have isLeft := (books.stands.of_finished phase).1.1
      exact Bool.noConfusion (linked.symm.trans isLeft)
  | cancelled => exact absurd phase books.stands.not_cancelled
  | serving other =>
      have isOther := (books.stands.of_serving phase).1
      obtain rfl : other = context := Option.some.inj (isOther.symm.trans known)
      rw [phase] at quiet
      dsimp only at quiet
      split at quiet
      · exact absurd quiet (Option.some_ne_none _)
      next noOpens =>
        split at quiet
        · exact absurd quiet (Option.some_ne_none _)
        · split at quiet
          · exact absurd quiet (Option.some_ne_none _)
          next noAsks =>
            have opens := nothing_of_take noOpens
            have asks := nothing_of_take (Option.map_eq_none_iff.1 noAsks)
            have openRoom : 0 < connection.opens.capacity := by
              rw [books.linkage.rooms.1]
              decide
            have askRoom : 0 < connection.globals.box.capacity := by
              rw [books.linkage.rooms.2]
              decide
            exact ⟨phase, opens, nobody_of_room openRoom opens settled.opens, asks,
              nobody_of_room askRoom asks settled.globals⟩

/-! ### Isolation -/

/-- All that an operation may change: the channel of one number. The serving goes on, and what
waits, what was refused, and all other channels stay as they are. -/
structure Apart (handling : Handling η τ) (number : Nat) (before after : Connection η τ) :
    Prop where
  phase : after.phase = before.phase
  opens : after.opens = before.opens
  globals : after.globals = before.globals
  refused : after.refused = before.refused
  others : ∀ other ≠ number,
    after.tasks.filter (fun task => task.number == other) =
      before.tasks.filter fun task => task.number == other
  decisions : ∀ other ≠ number, after.decision? handling other = before.decision? handling other

/-- What is done to the tasks of one number leaves the tasks of all others alone. -/
theorem filter_map_other (tasks : List (HandlerTask τ)) {change : HandlerTask τ → HandlerTask τ}
    (keepsNumber : ∀ task, (change task).number = task.number) {number other : Nat}
    (isOther : other ≠ number) :
    (tasks.map fun task => if task.number == number then change task else task).filter
        (fun task => task.number == other) =
      tasks.filter fun task => task.number == other := by
  induction tasks with
  | nil => rfl
  | cons task rest inductionHypothesis =>
      rw [List.map_cons, List.filter_cons, List.filter_cons, inductionHypothesis]
      by_cases isNumber : task.number = number
      · have mine : (task.number == number) = true := beq_iff_eq.2 isNumber
        have notOther : (task.number == other) = false :=
          beq_false_of_ne fun same => isOther (same.symm.trans isNumber)
        rw [if_pos mine, keepsNumber, notOther, if_neg Bool.false_ne_true,
          if_neg Bool.false_ne_true]
      · have notMine : ¬(task.number == number) = true := fun same => isNumber (beq_iff_eq.1 same)
        rw [if_neg notMine]

theorem apart_of_tasks (number : Nat) (change : HandlerTask τ → HandlerTask τ)
    (keepsNumber : ∀ task, (change task).number = task.number) (log : List LogEntry) :
    Apart handling number connection
      { connection with
        tasks := connection.tasks.map fun task =>
          if task.number == number then change task else task
        log } where
  phase := rfl
  opens := rfl
  globals := rfl
  refused := rfl
  others other isOther := filter_map_other connection.tasks keepsNumber isOther
  decisions other isOther := by
    unfold Connection.decision?
    dsimp only
    rw [← List.head?_filter, filter_map_other connection.tasks keepsNumber isOther,
      List.head?_filter]

theorem apart_refl (number : Nat) : Apart handling number connection connection :=
  ⟨rfl, rfl, rfl, rfl, fun _ _ => rfl, fun _ _ => rfl⟩

/-- Whatever a handler does, be it its last move, reaches its own channel and nothing else. -/
theorem moveHandler_apart (number : Nat) (move : handling.Move) :
    Apart handling number connection (connection.stepBy (.handler number move)) :=
  apart_of_tasks number (HandlerTask.move · move) (fun task => (task.move_goesOn move).number) _

theorem touchHandler_apart (number : Nat) (touch : handling.Touch) :
    Apart handling number connection (connection.stepBy (.touch number touch)) :=
  apart_of_tasks number (HandlerTask.touch · touch)
    (fun task => (task.touch_goesOn touch).number) connection.log

variable (handling) in
theorem hearEnd_cases (connection : Connection η τ) (number : Nat) :
    connection.stepBy (.serve (.ended number) : ConnectionAct handling) = connection ∨
      ∃ log, connection.stepBy (.serve (.ended number) : ConnectionAct handling) =
        { connection with
          tasks := connection.tasks.map fun task =>
            if task.number == number then { task with noticed := true } else task
          log } := by
  have turn : connection.turn? handling (.ended number) = none ∨
      connection.turn? handling (.ended number) = connection.hearEnd? handling number := by
    unfold turn?
    cases connection.phase with
    | serving context => exact .inr rfl
    | handshake | finished | cancelled => exact .inl rfl
  unfold stepBy
  dsimp only
  rcases turn with deaf | hears
  · rw [deaf]
    exact .inl rfl
  · rw [hears]
    unfold hearEnd?
    split
    · exact .inl rfl
    next ended found =>
      have matched := List.find?_some found
      have isNumber : ended.number = number := by
        rw [Bool.and_eq_true, beq_iff_eq] at matched
        exact matched.2
      rw [isNumber]
      exact .inr ⟨_, rfl⟩

theorem decision_notice (connection : Connection η τ) (number other : Nat) (log : List LogEntry) :
    Connection.decision? handling
      { connection with
        tasks := connection.tasks.map fun task =>
          if task.number == number then { task with noticed := true } else task
        log } other = connection.decision? handling other := by
  have sameNumber : ∀ task : HandlerTask τ,
      (if task.number == number then { task with noticed := true } else task).number =
        task.number := by
    intro task
    split <;> rfl
  have sameDecision : ∀ task : HandlerTask τ,
      (if task.number == number then { task with noticed := true } else task).decision? handling =
        task.decision? handling := by
    intro task
    split <;> rfl
  unfold Connection.decision?
  dsimp only
  rw [List.find?_map]
  simp only [Function.comp_def, sameNumber]
  cases connection.tasks.find? fun task => task.number == other with
  | none => rfl
  | some task =>
      rw [Option.map_some, Option.bind_some, sameDecision]
      rfl

/-- To hear of the end of a handler changes no decision at all, and does not end the serving. -/
theorem hearEnd_apart (connection : Connection η τ) (number : Nat) :
    Apart handling number connection
        (connection.stepBy (.serve (.ended number) : ConnectionAct handling)) ∧
      (connection.stepBy (.serve (.ended number) : ConnectionAct handling)).decision? handling
          number =
        connection.decision? handling number := by
  rcases connection.hearEnd_cases handling number with stays | ⟨log, noticed⟩
  · rw [stays]
    exact ⟨apart_refl number, rfl⟩
  · rw [noticed]
    exact ⟨apart_of_tasks number (fun task => { task with noticed := true }) (fun _ => rfl) log,
      connection.decision_notice number number log⟩

/-! ### Routing -/

/-- What has been decided about an open: by the handler of its type, which has abandoned it if it
has ended without a decision, or against it, with the text of the failure, where its type has none.
-/
def Routed (handling : Handling η τ) (registry : Registry η) (connection : Connection η τ)
    (entry : Nat × ChannelOffer) : Prop :=
  match registry.find? entry.2.channelType with
  | none =>
    connection.decision? handling entry.1 =
      some (.error ⟨.unknownChannelType,
        (Failure.unsupportedChannelType entry.2.channelType).message⟩)
  | some _ =>
    ∃ task ∈ connection.tasks, task.number = entry.1 ∧
      connection.decision? handling entry.1 = task.decision? handling ∧
      ((handling.ended? task.state).isSome = true → handling.decision? task.state = none →
        connection.decision? handling entry.1 =
          some (.error ⟨.resourceShortage, "channel open abandoned"⟩))

theorem Books.routed (books : Books handling registry seen taken left replied connection)
    {entry : Nat × ChannelOffer} (isTaken : entry ∈ taken) :
    connection.Routed handling registry entry := by
  unfold Routed
  split
  next unserved =>
    have notServed : registry.serves entry = false := by
      rw [Registry.serves, unserved]
      rfl
    exact books.decision_of_unserved isTaken notServed
  next handler served =>
    have isServed : registry.serves entry = true := by
      rw [Registry.serves, served]
      rfl
    obtain ⟨task, member, isNumber⟩ := books.exists_task isTaken isServed
    have heard := books.decision_of_task member
    rw [isNumber] at heard
    refine ⟨task, member, isNumber, heard, fun ended unmade => ?_⟩
    have isOver : task.isOver handling = true := by
      rw [HandlerTask.isOver, ended, Bool.or_true]
    rw [heard, HandlerTask.decision_of_unmade unmade, if_pos isOver]
    rfl

theorem AsksInOrder.nodup {asked : List Request} (inOrder : connection.AsksInOrder asked) :
    (asked.map Request.reply).Nodup :=
  (inOrder.sublist (List.sublist_append_left _ _)).nodup

theorem AsksInOrder.wantsReply {asked : List Request} (inOrder : connection.AsksInOrder asked) :
    ∀ request ∈ asked, request.reply.isSome = true := by
  obtain ⟨numbers, same, -⟩ := inOrder.sublist (List.sublist_append_left asked _)
  intro request member
  have numbered : request.reply ∈ numbers.map some := by
    rw [← same]
    exact List.mem_map_of_mem member
  obtain ⟨number, -, isNumber⟩ := List.mem_map.1 numbered
  rw [← isNumber]
  rfl

end Account

/-- Whatever opens and requests come in, and whatever handlers do in between. No move of a handler,
its last one included, and nothing that is done at the other end of its channel reaches beyond that
channel; and to hear of its end changes nothing for anybody. Once an authenticated connection has
settled, it still serves, and nothing waits. Each open of a type that is served was handed once, in
turn, to the handler of its type with the context of the connection; each of another type was
refused and handed to nobody; and each request about the connection was refused. What the connection
does on its own is among all this. -/
theorem routed_and_isolated {handling : Handling η τ} (lawful : handling.Lawful)
    (registry : Registry η) (acts : List (ConnectionAct handling)) :
    let start : Connection η τ := { handlers := registry }
    let connection := start.runBy acts
    let seen := start.dealings acts
    (∀ number,
        (∀ move : handling.Move,
            Apart handling number connection (connection.stepBy (.handler number move))) ∧
          (∀ touch : handling.Touch,
            Apart handling number connection (connection.stepBy (.touch number touch))) ∧
          Apart handling number connection
            (connection.stepBy (.serve (.ended number) : ConnectionAct handling)) ∧
          (connection.stepBy (.serve (.ended number) : ConnectionAct handling)).decision? handling
              number =
            connection.decision? handling number) ∧
      (∀ next, connection.advance? handling = some next →
        ∃ own : List (ConnectionAct handling), start.runBy (acts ++ own) = next) ∧
      ∀ context, connection.identity = some context → connection.linked = true →
        connection.Settled handling →
          connection.AtRest context ∧
          List.Forall₂ (Began handling registry context) (seen.opened.filter registry.serves)
            seen.handed ∧
          connection.tasks.map HandlerTask.number = seen.handed.map HandlerTask.number ∧
          connection.refused = registry.refusalsOf seen.opened ∧
          (seen.opened.map Prod.fst).Nodup ∧
          (∀ entry ∈ seen.opened, connection.Routed handling registry entry) ∧
          seen.answered = refusals seen.asked ∧
          (seen.asked.map Request.reply).Nodup ∧
          ∀ request ∈ seen.asked, request.reply.isSome = true := by
  intro start connection seen
  obtain ⟨taken, left, replied, books⟩ := books_run registry acts
  refine ⟨fun number => ⟨moveHandler_apart number, touchHandler_apart number,
      connection.hearEnd_apart number⟩,
    fun next => own_among_runs lawful registry acts, fun context known linked settled => ?_⟩
  have atRest := books.atRest settled linked known
  obtain rfl := (books.stands.of_serving atRest.phase).2
  have everything : seen.opened = taken := by
    rw [books.opened, atRest.noOpens, List.append_nil, List.append_nil]
  have allAsked : seen.asked = replied := by
    rw [books.asked, atRest.noAsks, List.append_nil]
  have handed : List.Forall₂ (Began handling registry context)
      (taken.filter registry.serves) seen.handed :=
    books.handed.imp fun entry task ⟨other, isContext, began⟩ =>
      Option.some.inj (isContext.symm.trans known) ▸ began
  have refused : connection.refused = registry.refusalsOf taken := by
    rw [books.refused, List.map_nil, List.append_nil]
  rw [everything, allAsked]
  exact ⟨atRest, handed, books.numbers, refused, everything ▸ books.opensInOrder.nodup,
    fun entry isTaken => books.routed isTaken, books.answered,
    allAsked ▸ books.asksInOrder.nodup, allAsked ▸ books.asksInOrder.wantsReply⟩

/-- An echo, a handler that panics, and a type that nothing serves, with a request about the
connection in between: the echo is accepted, the panic abandons its offer, and the rest is refused.
-/
theorem routed_and_isolated_of_actors :
    let registry : Registry Rehearsal.Cast :=
      .ofList [("echo", .other .echo), ("boom", .other .panic)]
    let start : Connection Rehearsal.Cast Rehearsal.Actor := { handlers := registry }
    let alice : Context := ⟨"alice", default, default, 0, none⟩
    let own := Rehearsal.Actor.lawful.ownMove
    let early : List (ConnectionAct Rehearsal.Actor.handling) :=
      [.link (.announce 0 ⟨"echo", .empty⟩), .link (.announce 0 ⟨"boom", .empty⟩),
        .link (.authenticate alice), .link (.request 0 "keepalive" .empty),
        .link (.announce 0 ⟨"x11", .empty⟩)]
    let acts := early ++
      [.serve .handshake, .serve .opens, .serve .opens, .handler 1 own, .serve (.ended 1),
        .serve .opens, .serve .globals, .handler 0 own]
    let connection := start.runBy acts
    let seen := start.dealings acts
    (connection.identity = some alice ∧ connection.linked = true ∧
        connection.Settled Rehearsal.Actor.handling) ∧
      (∃ next, (start.runBy early).advance? Rehearsal.Actor.handling = some next ∧
        ∃ later, start.runBy (early ++ later) = next) ∧
      Apart Rehearsal.Actor.handling 0 connection (connection.stepBy (.handler 0 own)) ∧
      connection.AtRest alice ∧
      List.Forall₂ (Began Rehearsal.Actor.handling registry alice)
        [(0, ⟨"echo", .empty⟩), (1, ⟨"boom", .empty⟩)] seen.handed ∧
      connection.refused = registry.refusalsOf seen.opened ∧
      connection.decision? Rehearsal.Actor.handling 0 = some (.ok ()) ∧
      connection.decision? Rehearsal.Actor.handling 1 =
        some (.error ⟨.resourceShortage, "channel open abandoned"⟩) ∧
      connection.Routed Rehearsal.Actor.handling registry (2, ⟨"x11", .empty⟩) ∧
      seen.asked.length = 1 ∧ seen.answered = refusals seen.asked ∧
      ∀ request ∈ seen.asked, request.reply.isSome = true := by
  intro registry start alice own early acts connection seen
  have routing := routed_and_isolated Rehearsal.Actor.lawful registry acts
  have known : connection.identity = some alice := by decide +kernel
  have linked : connection.linked = true := by decide +kernel
  have settled : connection.Settled Rehearsal.Actor.handling :=
    ⟨Option.isNone_iff_eq_none.1 (by decide +kernel), by decide +kernel, by decide +kernel⟩
  obtain ⟨next, advances⟩ :
      ∃ next, (start.runBy early).advance? Rehearsal.Actor.handling = some next :=
    Option.isSome_iff_exists.1 (by decide +kernel)
  have among := (routed_and_isolated Rehearsal.Actor.lawful registry early).2.1 next advances
  obtain ⟨atRest, handed, -, refused, -, routed, answered, -, wantsReply⟩ :=
    routing.2.2 alice known linked settled
  have served : seen.opened.filter registry.serves =
      [(0, ⟨"echo", .empty⟩), (1, ⟨"boom", .empty⟩)] := by decide +kernel
  have unserved : (2, ⟨"x11", .empty⟩) ∈ seen.opened := by decide +kernel
  exact ⟨⟨known, linked, settled⟩, ⟨next, advances, among⟩, (routing.1 0).1 own, atRest,
    served ▸ handed, refused, by decide +kernel, by decide +kernel, routed _ unserved,
    by decide +kernel, answered, wantsReply⟩

end Connection

end SshServer
