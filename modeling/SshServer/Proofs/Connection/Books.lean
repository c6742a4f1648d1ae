import SshServer.Proofs.Connection.Run

/-!
Contract: the books of a connection, which balance after every operation.

Owns: how the opens that were queued are divided, be it those that were taken up, those that wait,
and those that were left when the serving ended; who was given which; how the requests are divided;
which contexts, numbers and ends go with all that; and that every operation keeps the books.
Does not own: what the books say of a connection that has settled (`Proofs.Connection.Routing`) or
ended (`Proofs.Connection.Lifetime`).
-/

namespace SshServer

variable {η τ : Type}

/-- Whether there is a handler for an open. -/
def Registry.serves (registry : Registry η) (entry : Nat × ChannelOffer) : Bool :=
  (registry.find? entry.2.channelType).isSome

/-- The refusals of the opens for which there is no handler. -/
def Registry.refusalsOf (registry : Registry η) (opened : List (Nat × ChannelOffer)) :
    List (Nat × Rejection) :=
  (opened.filter fun entry => !registry.serves entry).map fun entry =>
    (entry.1, .unsupported entry.2.channelType)

/-- A task that begins with an open: the handler of its type is given its offer, and the context. -/
def Began (handling : Handling η τ) (registry : Registry η) (context : Context)
    (entry : Nat × ChannelOffer) (task : HandlerTask τ) : Prop :=
  ∃ handler awaited, registry.find? entry.2.channelType = some handler ∧
    task = { number := entry.1, state := handling.begin handler context entry.2 awaited }

namespace Connection

/-- The result with which the serving may return: a failure if nobody was reported. -/
def Warrants (connection : Connection η τ) : Except Failure Unit → Prop
  | .ok () => connection.identity.isSome = true
  | .error cause => cause = handshakeFailure ∧ connection.identity = none

theorem Warrants.of_same {before after : Connection η τ} {result : Except Failure Unit}
    (warrants : before.Warrants result) (identity : after.identity = before.identity) :
    after.Warrants result := by
  unfold Warrants
  rw [identity]
  exact warrants

/-- There is only one result with which the serving may return. -/
theorem Warrants.result_eq {connection : Connection η τ} {result : Except Failure Unit}
    (warrants : connection.Warrants result) :
    result = if connection.identity = none then .error handshakeFailure else .ok () := by
  cases result with
  | ok _ =>
      have known : connection.identity.isSome = true := warrants
      rw [if_neg (Option.isSome_iff_ne_none.1 known)]
  | error cause => rw [if_pos warrants.2, warrants.1]

/-- How far the serving has got. -/
def Stands (handling : Handling η τ) (taken left : List (Nat × ChannelOffer))
    (replied : List Request) (connection : Connection η τ) : Prop :=
  match connection.phase with
  | .handshake => taken = [] ∧ left = [] ∧ replied = []
  | .serving context => connection.identity = some context ∧ left = []
  | .finished result =>
    (connection.linked = false ∧ connection.opens.items.toList = [] ∧
        connection.globals.box.items.toList = [] ∧
        ∀ task ∈ connection.tasks, task.isOver handling = true) ∧
      connection.Warrants result
  | .cancelled => False

section Stands

variable {handling : Handling η τ} {taken left : List (Nat × ChannelOffer)}
variable {replied : List Request} {connection : Connection η τ}

theorem Stands.of_handshake (stands : connection.Stands handling taken left replied)
    (handshake : connection.phase = .handshake) : taken = [] ∧ left = [] ∧ replied = [] := by
  unfold Stands at stands
  rw [handshake] at stands
  exact stands

theorem Stands.of_serving (stands : connection.Stands handling taken left replied)
    {context : Context} (serving : connection.phase = .serving context) :
    connection.identity = some context ∧ left = [] := by
  unfold Stands at stands
  rw [serving] at stands
  exact stands

theorem Stands.of_finished (stands : connection.Stands handling taken left replied)
    {result : Except Failure Unit} (finished : connection.phase = .finished result) :
    (connection.linked = false ∧ connection.opens.items.toList = [] ∧
        connection.globals.box.items.toList = [] ∧
        ∀ task ∈ connection.tasks, task.isOver handling = true) ∧
      connection.Warrants result := by
  unfold Stands at stands
  rw [finished] at stands
  exact stands

theorem Stands.not_cancelled (stands : connection.Stands handling taken left replied) :
    connection.phase ≠ .cancelled := by
  intro cancelled
  unfold Stands at stands
  rw [cancelled] at stands
  exact stands

theorem stands_of_serving {context : Context} (serving : connection.phase = .serving context)
    (known : connection.identity = some context) :
    connection.Stands handling taken [] replied := by
  unfold Stands
  rw [serving]
  exact ⟨known, rfl⟩

end Stands

/-- The books: of what was opened `taken` was taken up and `left` was left at the end, and of what
was asked `replied` has its answer. -/
structure Books (handling : Handling η τ) (registry : Registry η) (seen : Dealings τ)
    (taken left : List (Nat × ChannelOffer)) (replied : List Request)
    (connection : Connection η τ) : Prop where
  handlers : connection.handlers = registry
  identity : connection.identity = seen.reported.head?
  opened : seen.opened = taken ++ left ++ connection.opens.items.toList
  handed : List.Forall₂
    (fun entry task => ∃ context, connection.identity = some context ∧
      Began handling registry context entry task)
    (taken.filter registry.serves) seen.handed
  refused : connection.refused = registry.refusalsOf taken ++ left.map fun entry =>
    (entry.1, .abandoned)
  numbers : connection.tasks.map HandlerTask.number = seen.handed.map HandlerTask.number
  asked : seen.asked = replied ++ connection.globals.box.items.toList
  answered : seen.answered = refusals replied
  opensInOrder : connection.OpensInOrder seen.opened
  asksInOrder : connection.AsksInOrder seen.asked
  linkage : connection.Linkage
  stands : connection.Stands handling taken left replied

section Account

variable {handling : Handling η τ} {registry : Registry η} {seen : Dealings τ}
variable {taken left : List (Nat × ChannelOffer)} {replied : List Request}
variable {connection : Connection η τ}

theorem refusals_append (first second : List Request) :
    refusals (first ++ second) = refusals first ++ refusals second :=
  List.flatMap_append

theorem refusals_snoc (requests : List Request) (request : Request) :
    refusals (requests ++ [request]) = refusals requests ++ History.reply request false := by
  rw [refusals_append]
  exact congrArg _ (List.flatMap_singleton _ _)

theorem refusalsOf_snoc_served (opened : List (Nat × ChannelOffer)) {entry : Nat × ChannelOffer}
    (served : registry.serves entry = true) :
    registry.refusalsOf (opened ++ [entry]) = registry.refusalsOf opened := by
  have nothing : [entry].filter (fun entry => !registry.serves entry) = [] := by
    rw [List.filter_singleton, served]
    rfl
  rw [Registry.refusalsOf, List.filter_append, nothing, List.append_nil, Registry.refusalsOf]

theorem refusalsOf_snoc_unserved (opened : List (Nat × ChannelOffer))
    {entry : Nat × ChannelOffer} (unserved : registry.serves entry = false) :
    registry.refusalsOf (opened ++ [entry]) =
      registry.refusalsOf opened ++ [(entry.1, .unsupported entry.2.channelType)] := by
  have itself : [entry].filter (fun entry => !registry.serves entry) = [entry] := by
    rw [List.filter_singleton, unserved]
    rfl
  rw [Registry.refusalsOf, List.filter_append, itself, List.map_append, Registry.refusalsOf]
  rfl

theorem head_append_reported (identity : Option Context) (reported : List Context)
    {before : List Context} (known : identity = before.head?) :
    (identity.toList ++ reported).head? = (before ++ reported).head? := by
  rw [known]
  cases before with
  | nil => rfl
  | cons first rest => rfl

/-! ### Operations of the transport -/

theorem Stands.link {after : Connection η τ} {reported : List Context}
    (stands : connection.Stands handling taken left replied)
    (effect : LinkEffect connection after reported) :
    after.Stands handling taken left replied := by
  unfold Stands
  rw [effect.phase]
  cases phase : connection.phase with
  | handshake => exact stands.of_handshake phase
  | serving context =>
      obtain ⟨known, nothing⟩ := stands.of_serving phase
      exact ⟨by rw [effect.identity, known]; rfl, nothing⟩
  | finished result =>
      obtain ⟨⟨isLeft, noOpens, noAsks, allOver⟩, warrants⟩ := stands.of_finished phase
      obtain ⟨staysLeft, unheard, opens, globals⟩ := effect.left isLeft
      have identity : after.identity = connection.identity := by
        rw [effect.identity, unheard, List.append_nil]
        exact Option.head?_toList
      rw [opens, globals, effect.tasks]
      exact ⟨⟨staysLeft, noOpens, noAsks, allOver⟩, warrants.of_same identity⟩
  | cancelled => exact absurd phase stands.not_cancelled

theorem Books.link {after : Connection η τ} {reported : List Context}
    (books : Books handling registry seen taken left replied connection)
    (effect : LinkEffect connection after reported) :
    Books handling registry
      (seen.add
        { reported
          opened := Mailbox.newItems connection.opens after.opens
          asked := RequestStream.newRequests connection.globals after.globals })
      taken left replied after where
  handlers := effect.handlers.trans books.handlers
  identity := by
    rw [effect.identity]
    exact head_append_reported _ _ books.identity
  opened := by
    show seen.opened ++ _ = _
    rw [books.opened, effect.opens.items, List.append_assoc]
  handed := by
    show List.Forall₂ _ _ (seen.handed ++ [])
    rw [List.append_nil]
    refine books.handed.imp fun entry task ⟨context, known, began⟩ => ⟨context, ?_, began⟩
    rw [effect.identity, known]
    rfl
  refused := effect.refused.trans books.refused
  numbers := by
    show _ = (seen.handed ++ []).map _
    rw [List.append_nil, effect.tasks, books.numbers]
  asked := by
    show seen.asked ++ _ = _
    rw [books.asked, effect.globals.items, List.append_assoc]
    rfl
  answered := by
    show seen.answered ++ [] = _
    rw [List.append_nil, books.answered]
  opensInOrder := effect.opensInOrder books.opensInOrder
  asksInOrder := effect.asksInOrder books.asksInOrder
  linkage := effect.linkage books.linkage
  stands := books.stands.link effect

/-! ### Operations of the serving -/

theorem Books.begin {context : Context}
    (books : Books handling registry seen taken left replied connection)
    (handshake : connection.phase = .handshake) (known : connection.identity = some context) :
    Books handling registry (seen.add {}) taken left replied
      { connection with phase := .serving context } := by
  rw [Dealings.add_nothing]
  exact { books with
    linkage := ⟨books.linkage.rooms, books.linkage.present, books.linkage.absent⟩
    stands := ⟨known, (books.stands.of_handshake handshake).2.1⟩ }

/-- An open is taken from the head of those that wait. -/
theorem Books.opened_of_take {number : Nat} {offer : ChannelOffer}
    {opens : Mailbox (Nat × ChannelOffer)}
    (books : Books handling registry seen taken [] replied connection)
    (isTaken : connection.opens.take? = some ((number, offer), opens)) :
    seen.opened = taken ++ [(number, offer)] ++ [] ++ opens.items.toList := by
  rw [books.opened, Mailbox.toList_of_take? isTaken, List.append_nil, List.append_nil,
    List.append_assoc]
  rfl

/-- To take an item leaves alone who waits, and the ends of the queue. -/
theorem take_frame {α : Type} {box rest : Mailbox α} {item : α}
    (isTaken : box.take? = some (item, rest)) :
    rest.blocked = box.blocked ∧ box.SameEnds rest := by
  simp only [Mailbox.take?, Option.map_eq_some_iff, Prod.mk.injEq, Prod.exists] at isTaken
  obtain ⟨_, _, _, _, rfl⟩ := isTaken
  exact ⟨rfl, rfl, rfl⟩

theorem Linkage.of_same {after : Connection η τ} (linkage : connection.Linkage)
    (linked : after.linked = connection.linked)
    (opens : after.opens.blocked = connection.opens.blocked ∧
      connection.opens.SameEnds after.opens)
    (globals : after.globals.box.blocked = connection.globals.box.blocked ∧
      connection.globals.box.SameEnds after.globals.box) : after.Linkage := by
  refine ⟨?_, fun stays => ?_, fun isLeft => ?_⟩
  · rw [opens.2.capacity, globals.2.capacity]
    exact linkage.rooms
  · rw [opens.2.senders, globals.2.senders]
    exact linkage.present (linked.symm.trans stays)
  · rw [opens.1, opens.2.senders, globals.1, globals.2.senders]
    exact linkage.absent (linked.symm.trans isLeft)

/-- An open of a type that nothing serves is refused. -/
theorem Books.refuse {context : Context} {number : Nat} {offer : ChannelOffer}
    {opens : Mailbox (Nat × ChannelOffer)} {log : List LogEntry}
    (books : Books handling registry seen taken [] replied connection)
    (serving : connection.phase = .serving context)
    (isTaken : connection.opens.take? = some ((number, offer), opens))
    (unserved : connection.handlers.find? offer.channelType = none) :
    Books handling registry (seen.add {}) (taken ++ [(number, offer)]) [] replied
      { connection with
        opens
        refused := connection.refused ++ [(number, .unsupported offer.channelType)]
        log } := by
  have notServed : registry.serves (number, offer) = false := by
    rw [Registry.serves, ← books.handlers, unserved]
    rfl
  obtain ⟨blocked, sameEnds⟩ := take_frame isTaken
  rw [Dealings.add_nothing]
  refine { books with
    opened := books.opened_of_take isTaken
    handed := ?_
    refused := ?_
    opensInOrder := ?_
    linkage := books.linkage.of_same rfl ⟨blocked, sameEnds⟩ ⟨rfl, rfl, rfl⟩
    stands := stands_of_serving serving (books.stands.of_serving serving).1 }
  · rw [List.filter_append, List.filter_singleton, notServed, cond_false, List.append_nil]
    exact books.handed
  · rw [refusalsOf_snoc_unserved taken notServed]
    show connection.refused ++ _ = _
    rw [books.refused, List.map_nil, List.append_nil, List.append_nil]
  · unfold OpensInOrder Mailbox.line
    rw [blocked]
    exact books.opensInOrder

/-- An open of a type that is served is handed to the handler of its type. -/
theorem Books.hand {context : Context} {number : Nat} {offer : ChannelOffer}
    {opens : Mailbox (Nat × ChannelOffer)} {handler : η}
    (books : Books handling registry seen taken [] replied connection) (awaited : Bool)
    (serving : connection.phase = .serving context)
    (isTaken : connection.opens.take? = some ((number, offer), opens))
    (served : connection.handlers.find? offer.channelType = some handler) :
    let task : HandlerTask τ := { number, state := handling.begin handler context offer awaited }
    Books handling registry (seen.add { handed := [task] }) (taken ++ [(number, offer)]) [] replied
      { connection with opens, tasks := connection.tasks ++ [task] } := by
  intro task
  have isServed : registry.serves (number, offer) = true := by
    rw [Registry.serves, ← books.handlers, served]
    rfl
  have known := (books.stands.of_serving serving).1
  have began : Began handling registry context (number, offer) task :=
    ⟨handler, awaited, books.handlers ▸ served, rfl⟩
  obtain ⟨blocked, sameEnds⟩ := take_frame isTaken
  rw [Dealings.add_handed]
  exact { books with
    opened := books.opened_of_take isTaken
    handed := by
      rw [List.filter_append, List.filter_singleton, isServed, cond_true]
      exact List.rel_append books.handed (.cons ⟨context, known, began⟩ .nil)
    refused := by
      rw [refusalsOf_snoc_served taken isServed]
      exact books.refused
    numbers := by
      show (connection.tasks ++ [task]).map HandlerTask.number = _
      rw [List.map_append, books.numbers, List.map_append]
    opensInOrder := by
      unfold OpensInOrder Mailbox.line
      rw [blocked]
      exact books.opensInOrder
    linkage := books.linkage.of_same rfl ⟨blocked, sameEnds⟩ ⟨rfl, rfl, rfl⟩
    stands := stands_of_serving serving known }

/-- A request about the connection is refused. -/
theorem Books.answer {context : Context} {request : Request} {globals : RequestStream}
    (books : Books handling registry seen taken [] replied connection)
    (serving : connection.phase = .serving context)
    (isTaken : connection.globals.take? = some (request, globals)) :
    Books handling registry (seen.add { answered := History.reply request false }) taken []
      (replied ++ [request]) ({ connection with globals }.refuseGlobal request) := by
  simp only [RequestStream.take?, Option.map_eq_some_iff, Prod.exists, Prod.mk.injEq] at isTaken
  obtain ⟨first, box, takenBox, rfl, rfl⟩ := isTaken
  obtain ⟨blocked, sameEnds⟩ := take_frame takenBox
  have requests : (({ connection.globals with box }).answer first false).box = box :=
    RequestStream.box_answer _ _ _
  have sameNext : (({ connection.globals with box }).answer first false).nextReply =
      connection.globals.nextReply := RequestStream.nextReply_answer _ _ _
  rw [Dealings.add_answered]
  exact { books with
    asked := by
      show seen.asked = _ ++ (({ connection.globals with box }).answer first false).box.items.toList
      rw [requests, books.asked, Mailbox.toList_of_take? takenBox, List.append_assoc]
      rfl
    answered := by
      rw [refusals_snoc, ← books.answered]
    opensInOrder := books.opensInOrder
    asksInOrder := by
      show InOrder _ (Mailbox.line _ (({ connection.globals with box }).answer first false).box)
        (({ connection.globals with box }).answer first false).nextReply
      rw [requests, sameNext, Mailbox.line, blocked]
      exact books.asksInOrder
    linkage := books.linkage.of_same rfl ⟨rfl, rfl, rfl⟩ (by
      show (({ connection.globals with box }).answer first false).box.blocked = _ ∧
        connection.globals.box.SameEnds (({ connection.globals with box }).answer first false).box
      rw [requests]
      exact ⟨blocked, sameEnds⟩)
    stands := stands_of_serving serving (books.stands.of_serving serving).1 }

/-- When the serving ends, what waits is left, and answered for. -/
theorem Books.finish (books : Books handling registry seen taken [] replied connection)
    {phase : ServePhase}
    (stands : (connection.finish handling phase).Stands handling taken
      connection.opens.items.toList (replied ++ connection.globals.box.items.toList)) :
    Books handling registry
      (seen.add { answered := refusals connection.globals.box.items.toList }) taken
      connection.opens.items.toList (replied ++ connection.globals.box.items.toList)
      (connection.finish handling phase) := by
  rw [Dealings.add_answered]
  exact { books with
    opened := by
      show seen.opened = _ ++ []
      rw [List.append_nil, books.opened, List.append_nil]
    refused := by
      show connection.refused ++ _ = _
      rw [books.refused, List.map_nil, List.append_nil]
    numbers := by
      show (connection.tasks.map (HandlerTask.cancel handling)).map HandlerTask.number = _
      rw [← books.numbers, List.map_map]
      exact List.map_congr_left fun task _ => task.number_cancel
    asked := by
      show seen.asked = _ ++ []
      rw [List.append_nil, books.asked]
    answered := by
      rw [refusals_append, ← books.answered]
    asksInOrder := by
      show InOrder _ _ (connection.globals.box.items.toList.foldl RequestStream.discard
        connection.globals).nextReply
      rw [RequestStream.nextReply_foldl_discard]
      exact books.asksInOrder
    linkage := books.linkage.of_same rfl ⟨rfl, rfl, rfl⟩ ⟨rfl, rfl, rfl⟩
    stands }

theorem numbers_of_goesOn {before after : List (HandlerTask τ)}
    (goesOn : List.Forall₂ (HandlerTask.GoesOn handling) before after) :
    after.map HandlerTask.number = before.map HandlerTask.number := by
  induction goesOn with
  | nil => rfl
  | cons first _ inductionHypothesis =>
      rw [List.map_cons, List.map_cons, first.number, inductionHypothesis]

theorem over_of_goesOn {before after : List (HandlerTask τ)}
    (goesOn : List.Forall₂ (HandlerTask.GoesOn handling) before after)
    (allOver : ∀ task ∈ before, task.isOver handling = true) :
    ∀ task ∈ after, task.isOver handling = true := by
  induction goesOn with
  | nil => exact allOver
  | cons first _ inductionHypothesis =>
      rw [List.forall_mem_cons] at allOver ⊢
      exact ⟨first.stillOver allOver.1, inductionHypothesis allOver.2⟩

theorem Stands.goOn {tasks : List (HandlerTask τ)} {log : List LogEntry}
    (stands : connection.Stands handling taken left replied)
    (goesOn : List.Forall₂ (HandlerTask.GoesOn handling) connection.tasks tasks) :
    Stands handling taken left replied { connection with tasks, log } := by
  unfold Stands
  dsimp only
  cases phase : connection.phase with
  | handshake => exact stands.of_handshake phase
  | serving context => exact stands.of_serving phase
  | finished result =>
      obtain ⟨⟨isLeft, noOpens, noAsks, allOver⟩, warrants⟩ := stands.of_finished phase
      exact ⟨⟨isLeft, noOpens, noAsks, over_of_goesOn goesOn allOver⟩, warrants.of_same rfl⟩
  | cancelled => exact absurd phase stands.not_cancelled

/-- Handlers go on. -/
theorem Books.goOn (books : Books handling registry seen taken left replied connection)
    {tasks : List (HandlerTask τ)} {log : List LogEntry}
    (goesOn : List.Forall₂ (HandlerTask.GoesOn handling) connection.tasks tasks) :
    Books handling registry (seen.add {}) taken left replied { connection with tasks, log } := by
  rw [Dealings.add_nothing]
  exact { books with
    numbers := (numbers_of_goesOn goesOn).trans books.numbers
    linkage := books.linkage.of_same rfl ⟨rfl, rfl, rfl⟩ ⟨rfl, rfl, rfl⟩
    stands := books.stands.goOn goesOn }

/-! ### Every operation -/

variable (handling) in
theorem over_of_finish (connection : Connection η τ) (phase : ServePhase) :
    ∀ task ∈ (connection.finish handling phase).tasks, task.isOver handling = true := by
  intro task member
  obtain ⟨before, -, rfl⟩ := List.mem_map.1 member
  exact before.isOver_cancel

/-- The opens end only with the link. -/
theorem Linkage.left_of_ended (linkage : connection.Linkage)
    (isEnded : connection.opens.ended = true) : connection.linked = false := by
  rw [Mailbox.ended, Bool.and_eq_true, beq_iff_eq] at isEnded
  cases linked : connection.linked with
  | false => rfl
  | true =>
      have one := (linkage.present linked).1
      rw [isEnded.2] at one
      exact absurd one Nat.zero_ne_one

/-- Whatever is done, the books are kept. -/
theorem Books.turn {after : Connection η τ} {shown : Dealings τ}
    (books : Books handling registry seen taken left replied connection)
    (turn : Turn handling connection shown after) :
    ∃ taken left replied, Books handling registry (seen.add shown) taken left replied after := by
  cases turn with
  | link after reported effect => exact ⟨_, _, _, books.link effect⟩
  | began context handshake known => exact ⟨_, _, _, books.begin handshake known⟩
  | failed handshake unknown isLeft =>
      obtain ⟨-, rfl, -⟩ := books.stands.of_handshake handshake
      have finished := connection.over_of_finish handling (.finished (.error handshakeFailure))
      exact ⟨_, _, _, books.finish ⟨⟨isLeft, rfl, rfl, finished⟩, rfl, unknown⟩⟩
  | refused context number offer opens serving isTaken unserved =>
      obtain rfl := (books.stands.of_serving serving).2
      exact ⟨_, _, _, books.refuse serving isTaken unserved⟩
  | handed context number offer opens handler awaited serving isTaken served =>
      obtain rfl := (books.stands.of_serving serving).2
      exact ⟨_, _, _, books.hand awaited serving isTaken served⟩
  | ended context serving nothing isEnded =>
      obtain ⟨known, rfl⟩ := books.stands.of_serving serving
      have finished := connection.over_of_finish handling (.finished (.ok ()))
      have isLeft := books.linkage.left_of_ended isEnded
      have identified : connection.identity.isSome = true := by
        rw [known]
        rfl
      exact ⟨_, _, _, books.finish ⟨⟨isLeft, rfl, rfl, finished⟩, identified⟩⟩
  | answered context request globals serving isTaken =>
      obtain rfl := (books.stands.of_serving serving).2
      exact ⟨_, _, _, books.answer serving isTaken⟩
  | went tasks log goesOn => exact ⟨_, _, _, books.goOn goesOn⟩

end Account

/-- A connection begins with empty books. -/
theorem books_at_start (handling : Handling η τ) (registry : Registry η) :
    Books handling registry {} [] [] [] { handlers := registry } where
  handlers := rfl
  identity := rfl
  opened := rfl
  handed := .nil
  refused := rfl
  numbers := rfl
  asked := rfl
  answered := rfl
  opensInOrder := InOrder.start _ _
  asksInOrder := InOrder.start _ _
  linkage := ⟨⟨rfl, rfl⟩, fun _ => ⟨rfl, rfl⟩, fun left => Bool.noConfusion left⟩
  stands := ⟨rfl, rfl, rfl⟩

/-- The books balance after every run. -/
theorem books_run {handling : Handling η τ} (registry : Registry η)
    (acts : List (ConnectionAct handling)) :
    let start : Connection η τ := { handlers := registry }
    ∃ taken left replied,
      Books handling registry (start.dealings acts) taken left replied (start.runBy acts) := by
  intro start
  -- from the end of the run, since what was seen grows at its end
  induction acts using List.reverseRecOn with
  | nil => exact ⟨_, _, _, books_at_start handling registry⟩
  | append_singleton acts act inductionHypothesis =>
      obtain ⟨taken, left, replied, books⟩ := inductionHypothesis
      rw [dealings_snoc, runBy_snoc]
      exact books.turn ((start.runBy acts).stepBy_turn act)

end Connection

end SshServer
