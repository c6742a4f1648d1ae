import Mathlib.Data.List.Forall2
import SshServer.Connection.Dispatcher
import SshServer.Proofs.Connection.Numbers
import SshServer.Proofs.Session.LettingGo

/-!
Contract: everything that can happen to a connection, in any order.

Owns: what handlers keep to, whatever they do; the operations of the transport, of the serving, of
the handlers and of those at the other end of their channels; runs of them; what an onlooker sees of
the dealings of a connection; and what one operation can do.
Does not own: what follows for a whole run (`Proofs.Connection.Books`).

The serving listens to the opens, to the requests about the connection and to the ends of handlers,
and hears whichever it likes first. Handlers move at any time, and one that waits makes no move.
-/

namespace SshServer

/-! ### Handlers -/

section Handlers

variable {η τ : Type}

/-- What handlers of every kind keep to: a decision is final, and to stop a handler is not
a decision. -/
structure Handling.Lawful (handling : Handling η τ) : Prop where
  step : ∀ {state next decision remarks}, handling.step? state = some (next, remarks) →
    handling.decision? state = some decision → handling.decision? next = some decision
  cancel : ∀ state, handling.decision? (handling.cancel state) = handling.decision? state

/-- A move of a handler: it may do anything but take back its decision. -/
structure Handling.Move (handling : Handling η τ) where
  change : τ → τ
  remarks : τ → List LogEntry
  keeps : ∀ {state decision}, handling.decision? state = some decision →
    handling.decision? (change state) = some decision

/-- What is done to the channel of a handler at its other end: it decides nothing and ends
nothing. -/
structure Handling.Touch (handling : Handling η τ) where
  change : τ → τ
  decision : ∀ state, handling.decision? (change state) = handling.decision? state
  ended : ∀ state, handling.ended? (change state) = handling.ended? state

/-- The move that a handler makes by its own rules. -/
def Handling.Lawful.ownMove {handling : Handling η τ} (lawful : handling.Lawful) :
    handling.Move where
  change state := ((handling.step? state).map Prod.fst).getD state
  remarks state := ((handling.step? state).map Prod.snd).getD []
  keeps {state decision} decided := by
    cases step : handling.step? state with
    | none => exact decided
    | some pair => exact lawful.step step decided

namespace HandlerTask

variable {handling : Handling η τ}

/-- Only a handler that runs can move. -/
def move (task : HandlerTask τ) (move : handling.Move) : HandlerTask τ :=
  if task.isOver handling then task else { task with state := move.change task.state }

def moveRemarks (task : HandlerTask τ) (move : handling.Move) : List LogEntry :=
  if task.isOver handling then [] else move.remarks task.state

def touch (task : HandlerTask τ) (touch : handling.Touch) : HandlerTask τ :=
  { task with state := touch.change task.state }

variable (handling) in
/-- How a task goes on: its number stays, its end stays, and what the transport has heard of
it stays. -/
structure GoesOn (before after : HandlerTask τ) : Prop where
  number : after.number = before.number
  stillOver : before.isOver handling = true → after.isOver handling = true
  decided : ∀ decision, before.decision? handling = some decision →
    after.decision? handling = some decision

theorem GoesOn.refl (task : HandlerTask τ) : GoesOn handling task task :=
  ⟨rfl, id, fun _ => id⟩

/-- A handler that has made its decision is believed, over or not. -/
theorem decision_of_made {task : HandlerTask τ} {decision : Decision}
    (made : handling.decision? task.state = some decision) :
    task.decision? handling = some decision := by
  unfold decision?
  rw [made]

/-- A handler that has made no decision has abandoned its offer once it is over. -/
theorem decision_of_unmade {task : HandlerTask τ} (unmade : handling.decision? task.state = none) :
    task.decision? handling =
      if task.isOver handling then some (.error .abandoned) else none := by
  unfold decision?
  rw [unmade]

theorem decided_of_over {task : HandlerTask τ} (isOver : task.isOver handling = true) :
    ∃ decision, task.decision? handling = some decision := by
  cases made : handling.decision? task.state with
  | some decision => exact ⟨decision, decision_of_made made⟩
  | none => exact ⟨_, (decision_of_unmade made).trans (if_pos isOver)⟩

/-- The decision of a task that runs is the handler's own. -/
theorem made_of_running {task : HandlerTask τ} (running : task.isOver handling = false) :
    task.decision? handling = handling.decision? task.state := by
  cases made : handling.decision? task.state with
  | some decision => exact decision_of_made made
  | none => exact (decision_of_unmade made).trans (if_neg (Bool.eq_false_iff.1 running))

theorem move_goesOn (task : HandlerTask τ) (move : handling.Move) :
    GoesOn handling task (task.move move) := by
  unfold HandlerTask.move
  split
  · exact .refl task
  next running =>
    refine ⟨rfl, fun isOver => absurd isOver running, fun decision decided => ?_⟩
    rw [made_of_running (Bool.eq_false_iff.2 running)] at decided
    exact decision_of_made (move.keeps decided)

theorem isOver_touch (task : HandlerTask τ) (touch : handling.Touch) :
    (task.touch touch).isOver handling = task.isOver handling := by
  show (task.cancelled || (handling.ended? (touch.change task.state)).isSome) = _
  rw [touch.ended]
  rfl

theorem decision_touch (task : HandlerTask τ) (touch : handling.Touch) :
    (task.touch touch).decision? handling = task.decision? handling := by
  have made : handling.decision? (task.touch touch).state = handling.decision? task.state :=
    touch.decision task.state
  unfold decision?
  rw [made, isOver_touch]

theorem touch_goesOn (task : HandlerTask τ) (touch : handling.Touch) :
    GoesOn handling task (task.touch touch) :=
  ⟨rfl, (task.isOver_touch touch).trans, fun _ => (task.decision_touch touch).trans⟩

theorem isOver_cancel (task : HandlerTask τ) : (task.cancel handling).isOver handling = true := by
  unfold cancel
  split
  next isOver => exact isOver
  · rfl

/-- A task that is stopped keeps its decision, or else has abandoned its offer. -/
theorem decision_cancel (lawful : handling.Lawful) (task : HandlerTask τ) :
    (task.cancel handling).decision? handling =
      some ((task.decision? handling).getD (.error .abandoned)) := by
  have isOver : (task.cancel handling).isOver handling = true := task.isOver_cancel
  unfold cancel at isOver ⊢
  split at isOver
  next wasOver =>
    rw [if_pos wasOver]
    obtain ⟨decision, decided⟩ := decided_of_over wasOver
    rw [decided]
    rfl
  next running =>
    have made := lawful.cancel task.state
    rw [if_neg running, made_of_running (Bool.eq_false_iff.2 running)]
    cases own : handling.decision? task.state with
    | some decision => exact decision_of_made (made.trans own)
    | none => exact (decision_of_unmade (made.trans own)).trans (if_pos isOver)

theorem number_cancel (task : HandlerTask τ) : (task.cancel handling).number = task.number := by
  unfold cancel
  split <;> rfl

theorem cancel_goesOn (lawful : handling.Lawful) (task : HandlerTask τ) :
    GoesOn handling task (task.cancel handling) where
  number := task.number_cancel
  stillOver _ := task.isOver_cancel
  decided decision decided := by
    rw [task.decision_cancel lawful, decided]
    rfl

end HandlerTask

end Handlers

/-! ### Operations -/

/-- An operation of the transport at its end of a connection. -/
inductive LinkAct where
  | authenticate (context : Context)
  | announce (sender : Nat) (offer : ChannelOffer)
  | retryOpen (sender : Nat)
  | withdrawOpen (sender : Nat)
  /-- Makes a request about the connection, which always wants an answer. -/
  | request (sender : Nat) (kind : String) (payload : ByteArray)
  | retryRequest (sender : Nat)
  | withdrawRequest (sender : Nat)
  | leave

/-- What the serving listens to. -/
inductive ServeTurn where
  | handshake
  | opens
  | globals
  /-- It hears of the end of the handler that has an open of this number. -/
  | ended (number : Nat)

inductive ConnectionAct {η τ : Type} (handling : Handling η τ) where
  | link (act : LinkAct)
  /-- The transport collects the answer to a request, if it has been given. -/
  | collect (number : Nat)
  /-- The transport gives up waiting for the decision about an open. -/
  | desert (number : Nat)
  | serve (turn : ServeTurn)
  | handler (number : Nat) (move : handling.Move)
  | touch (number : Nat) (touch : handling.Touch)

namespace Connection

variable {η τ : Type}

/-- Whoever waits for room holds on to the link, so it is dropped only where nobody waits. -/
def performLink (connection : Connection η τ) : LinkAct → Connection η τ
  | .authenticate context => connection.authenticate context
  | .announce sender offer => (connection.announce sender offer).1
  | .retryOpen sender => { connection with opens := (connection.opens.retry sender).1 }
  | .withdrawOpen sender => { connection with opens := connection.opens.withdraw sender }
  | .request sender kind payload =>
    { connection with globals := connection.globals.step (.send sender kind payload true) }
  | .retryRequest sender => { connection with globals := connection.globals.step (.retry sender) }
  | .withdrawRequest sender =>
    { connection with globals := connection.globals.step (.withdraw sender) }
  | .leave =>
    if connection.opens.blocked = [] ∧ connection.globals.box.blocked = [] then
      connection.dropLink
    else connection

/-- Once the link is gone, nothing can be done with it. -/
def stepOfLink (connection : Connection η τ) (act : LinkAct) : Connection η τ :=
  if connection.linked then connection.performLink act else connection

variable (handling : Handling η τ)

/-- Takes up an open, or ends where there will be no more. -/
def hearOpens? (connection : Connection η τ) (context : Context) : Option (Connection η τ) :=
  match connection.opens.take? with
  | some ((number, offer), opens) =>
    some ({ connection with opens }.dispatch handling context number offer)
  | none =>
    if connection.opens.ended then some (connection.finish handling (.finished (.ok ())))
    else none

def hearGlobals? (connection : Connection η τ) : Option (Connection η τ) :=
  match connection.globals.take? with
  | some (request, globals) => some ({ connection with globals }.refuseGlobal request)
  | none => none

/-- Hears of the end of a handler, if it has ended and nobody has heard of that. -/
def hearEnd? (connection : Connection η τ) (number : Nat) : Option (Connection η τ) :=
  match connection.tasks.find? fun task =>
    !task.noticed && task.isOver handling && task.number == number with
  | none => none
  | some ended =>
    some { connection with
      tasks := connection.tasks.map fun task =>
        if task.number == ended.number then { task with noticed := true } else task
      log :=
        match handling.ended? ended.state with
        | some .panicked => connection.log ++ [.channelHandlerPanicked]
        | _ => connection.log }

/-- What the serving does about one of the things that it listens to; none where there is nothing
to be heard. -/
def turn? (connection : Connection η τ) (turn : ServeTurn) : Option (Connection η τ) :=
  match connection.phase, turn with
  | .handshake, .handshake => connection.step? handling
  | .serving context, .opens => connection.hearOpens? handling context
  | .serving _, .globals => connection.hearGlobals?
  | .serving _, .ended number => connection.hearEnd? handling number
  | _, _ => none

variable {handling}

def moveHandler (connection : Connection η τ) (number : Nat) (move : handling.Move) :
    Connection η τ :=
  { connection with
    tasks := connection.tasks.map fun task =>
      if task.number == number then task.move move else task
    log := connection.log ++ connection.tasks.flatMap fun task =>
      if task.number == number then task.moveRemarks move else [] }

def touchHandler (connection : Connection η τ) (number : Nat) (touch : handling.Touch) :
    Connection η τ :=
  { connection with
    tasks := connection.tasks.map fun task =>
      if task.number == number then task.touch touch else task }

def stepBy (connection : Connection η τ) : ConnectionAct handling → Connection η τ
  | .link act => connection.stepOfLink act
  | .collect number => { connection with globals := connection.globals.step (.collect number) }
  | .desert number => connection.desert number
  | .serve turn => (connection.turn? handling turn).getD connection
  | .handler number move => connection.moveHandler number move
  | .touch number touch => connection.touchHandler number touch

def runBy (connection : Connection η τ) (acts : List (ConnectionAct handling)) : Connection η τ :=
  runFrom stepBy connection acts

end Connection

/-! ### What an onlooker sees -/

/-- The dealings of a connection: what comes in, and what is done about it. -/
structure Dealings (τ : Type) where
  /-- The contexts that the transport reports. -/
  reported : List Context := []
  /-- The opens that are queued, each with its number. -/
  opened : List (Nat × ChannelOffer) := []
  /-- The handlers that are given an offer, as they begin. -/
  handed : List (HandlerTask τ) := []
  /-- The requests about the connection that are queued. -/
  asked : List Request := []
  /-- The answers that are given to them. -/
  answered : List (Nat × Bool) := []

/-- What is seen first, and then more. -/
def Dealings.add {τ : Type} (first later : Dealings τ) : Dealings τ where
  reported := first.reported ++ later.reported
  opened := first.opened ++ later.opened
  handed := first.handed ++ later.handed
  asked := first.asked ++ later.asked
  answered := first.answered ++ later.answered

namespace Dealings

variable {τ : Type} (seen : Dealings τ)

theorem add_nothing : seen.add {} = seen := by
  unfold add
  simp only [List.append_nil]

theorem add_handed (handed : List (HandlerTask τ)) :
    seen.add { handed } = { seen with handed := seen.handed ++ handed } := by
  unfold add
  simp only [List.append_nil]

theorem add_answered (answered : List (Nat × Bool)) :
    seen.add { answered } = { seen with answered := seen.answered ++ answered } := by
  unfold add
  simp only [List.append_nil]

end Dealings

namespace Connection

variable {η τ : Type} {handling : Handling η τ}

/-- A report reaches nobody once the link is gone. -/
def reportedBy (connection : Connection η τ) : ConnectionAct handling → List Context
  | .link (.authenticate context) => if connection.linked then [context] else []
  | _ => []

def openedBy (connection : Connection η τ) (act : ConnectionAct handling) :
    List (Nat × ChannelOffer) :=
  Mailbox.newItems connection.opens (connection.stepBy act).opens

def handedBy (connection : Connection η τ) (act : ConnectionAct handling) :
    List (HandlerTask τ) :=
  (connection.stepBy act).tasks.drop connection.tasks.length

def askedBy (connection : Connection η τ) (act : ConnectionAct handling) : List Request :=
  RequestStream.newRequests connection.globals (connection.stepBy act).globals

def answeredBy (connection : Connection η τ) (act : ConnectionAct handling) :
    List (Nat × Bool) :=
  (connection.stepBy act).globals.answers.drop connection.globals.answers.length

/-- What an onlooker sees of one operation. -/
def seenBy (connection : Connection η τ) (act : ConnectionAct handling) : Dealings τ where
  reported := connection.reportedBy act
  opened := connection.openedBy act
  handed := connection.handedBy act
  asked := connection.askedBy act
  answered := connection.answeredBy act

/-- What an onlooker sees over a run. -/
def dealings (connection : Connection η τ) (acts : List (ConnectionAct handling)) :
    Dealings τ where
  reported := observed stepBy reportedBy connection acts
  opened := observed stepBy openedBy connection acts
  handed := observed stepBy handedBy connection acts
  asked := observed stepBy askedBy connection acts
  answered := observed stepBy answeredBy connection acts

theorem runBy_append (connection : Connection η τ) (first later : List (ConnectionAct handling)) :
    connection.runBy (first ++ later) = (connection.runBy first).runBy later :=
  runFrom_append stepBy connection first later

theorem runBy_snoc (connection : Connection η τ) (acts : List (ConnectionAct handling))
    (act : ConnectionAct handling) :
    connection.runBy (acts ++ [act]) = (connection.runBy acts).stepBy act :=
  connection.runBy_append acts [act]

theorem dealings_snoc (connection : Connection η τ) (acts : List (ConnectionAct handling))
    (act : ConnectionAct handling) :
    connection.dealings (acts ++ [act]) =
      (connection.dealings acts).add ((connection.runBy acts).seenBy act) := by
  unfold dealings Dealings.add
  simp only [observed_snoc]
  rfl

/-! ### The transport -/

/-- The link and the queues agree. While it is there, it is the one sender of each; once it is gone,
nobody can send, and nobody waits to. -/
structure Linkage (connection : Connection η τ) : Prop where
  rooms : connection.opens.capacity = openBuffer ∧
    connection.globals.box.capacity = requestBuffer
  present : connection.linked = true →
    connection.opens.senders = 1 ∧ connection.globals.box.senders = 1
  absent : connection.linked = false →
    (connection.opens.senders = 0 ∧ connection.globals.box.senders = 0) ∧
      connection.opens.blocked = [] ∧ connection.globals.box.blocked = []

/-- The opens that were queued, and those that wait, are numbered in the order of
their announcement. -/
def OpensInOrder (opened : List (Nat × ChannelOffer)) (connection : Connection η τ) : Prop :=
  InOrder (fun entry => some entry.1) (Mailbox.line opened connection.opens) connection.nextOpen

/-- The requests that were queued, and those that wait, all want answers, under numbers of
their own. -/
def AsksInOrder (asked : List Request) (connection : Connection η τ) : Prop :=
  InOrder Request.reply (Mailbox.line asked connection.globals.box) connection.globals.nextReply

/-- What the transport does: it reports, it brings opens and requests, and it leaves. -/
structure LinkEffect (before after : Connection η τ) (reported : List Context) : Prop where
  handlers : after.handlers = before.handlers
  phase : after.phase = before.phase
  tasks : after.tasks = before.tasks
  refused : after.refused = before.refused
  identity : after.identity = (before.identity.toList ++ reported).head?
  left : before.linked = false → after.linked = false ∧ reported = [] ∧
    after.opens = before.opens ∧ after.globals.box = before.globals.box
  opens : Mailbox.Brings before.opens after.opens
  globals : RequestStream.SenderEffect before.globals after.globals
  linkage : before.Linkage → after.Linkage
  opensInOrder : ∀ {opened}, before.OpensInOrder opened →
    after.OpensInOrder (opened ++ Mailbox.newItems before.opens after.opens)
  asksInOrder : ∀ {asked}, before.AsksInOrder asked →
    after.AsksInOrder (asked ++ RequestStream.newRequests before.globals after.globals)

theorem AsksInOrder.of_same {before after : Connection η τ} {asked : List Request}
    (inOrder : before.AsksInOrder asked)
    (items : after.globals.box.items = before.globals.box.items)
    (blocked : after.globals.box.blocked = before.globals.box.blocked)
    (nextReply : after.globals.nextReply = before.globals.nextReply) :
    after.AsksInOrder (asked ++ RequestStream.newRequests before.globals after.globals) := by
  have sameLine : Mailbox.line (asked ++ RequestStream.newRequests before.globals after.globals)
      after.globals.box = Mailbox.line asked before.globals.box :=
    Mailbox.line_of_same items blocked
  rw [AsksInOrder, sameLine, nextReply]
  exact inOrder

theorem OpensInOrder.of_same {before after : Connection η τ} {opened : List (Nat × ChannelOffer)}
    (inOrder : before.OpensInOrder opened) (items : after.opens.items = before.opens.items)
    (blocked : after.opens.blocked = before.opens.blocked)
    (nextOpen : after.nextOpen = before.nextOpen) :
    after.OpensInOrder (opened ++ Mailbox.newItems before.opens after.opens) := by
  rw [OpensInOrder, Mailbox.line_of_same items blocked, nextOpen]
  exact inOrder

theorem LinkEffect.refl (connection : Connection η τ) : LinkEffect connection connection [] where
  handlers := rfl
  phase := rfl
  tasks := rfl
  refused := rfl
  identity := by simp
  left left := ⟨left, rfl, rfl, rfl⟩
  opens := .of_same rfl rfl
  globals := .refl _
  linkage := id
  opensInOrder inOrder := inOrder.of_same rfl rfl rfl
  asksInOrder inOrder := inOrder.of_same rfl rfl rfl

/-- Something is done with the queue of the opens. -/
theorem linkEffect_opens {before : Connection η τ} (linked : before.linked = true)
    {opens : Mailbox (Nat × ChannelOffer)} {nextOpen : Nat}
    (brings : Mailbox.Brings before.opens opens) (same : before.opens.SameEnds opens)
    (inOrder : ∀ {opened}, before.OpensInOrder opened →
      OpensInOrder (opened ++ Mailbox.newItems before.opens opens)
        { before with opens, nextOpen }) :
    LinkEffect before { before with opens, nextOpen } [] :=
  { LinkEffect.refl before with
    left := fun left => Bool.noConfusion (linked.symm.trans left)
    opens := brings
    linkage := fun linkage =>
      ⟨⟨same.capacity.trans linkage.rooms.1, linkage.rooms.2⟩,
        fun _ => ⟨same.senders.trans (linkage.present linked).1, (linkage.present linked).2⟩,
        fun left => Bool.noConfusion (linked.symm.trans left)⟩
    opensInOrder := inOrder }

/-- Something is done with the queue of the requests. -/
theorem linkEffect_globals {before : Connection η τ} (linked : before.linked = true)
    {act : RequestAct}
    (same : before.globals.box.SameEnds (before.globals.step act).box)
    (inOrder : ∀ {asked}, before.AsksInOrder asked →
      AsksInOrder (asked ++ RequestStream.newRequests before.globals (before.globals.step act))
        { before with globals := before.globals.step act }) :
    LinkEffect before { before with globals := before.globals.step act } [] :=
  { LinkEffect.refl before with
    left := fun left => Bool.noConfusion (linked.symm.trans left)
    globals := before.globals.step_sender_effect act
    linkage := fun linkage =>
      ⟨⟨linkage.rooms.1, same.capacity.trans linkage.rooms.2⟩,
        fun _ => ⟨(linkage.present linked).1, same.senders.trans (linkage.present linked).2⟩,
        fun left => Bool.noConfusion (linked.symm.trans left)⟩
    asksInOrder := inOrder }

theorem linkEffect_authenticate {before : Connection η τ} (linked : before.linked = true)
    (context : Context) : LinkEffect before (before.authenticate context) [context] := by
  unfold authenticate
  split
  next first known =>
    exact { LinkEffect.refl before with
      identity := by rw [known]; rfl
      left := fun left => Bool.noConfusion (linked.symm.trans left) }
  next unknown =>
    exact { LinkEffect.refl before with
      identity := by rw [unknown]; rfl
      left := fun left => Bool.noConfusion (linked.symm.trans left)
      linkage := fun linkage => ⟨linkage.rooms, linkage.present, linkage.absent⟩
      opensInOrder := fun inOrder => inOrder.of_same rfl rfl rfl
      asksInOrder := fun inOrder => inOrder.of_same rfl rfl rfl }

/-- To collect an answer leaves the requests alone. -/
theorem collect_same (stream : RequestStream) (number : Nat) :
    (stream.step (.collect number)).box = stream.box ∧
      (stream.step (.collect number)).nextReply = stream.nextReply := by
  simp only [RequestStream.step, RequestStream.collect?]
  cases stream.answers.lookup number with
  | none => exact ⟨rfl, rfl⟩
  | some verdict => exact ⟨rfl, rfl⟩

theorem linkEffect_collect (connection : Connection η τ) (number : Nat) :
    LinkEffect connection
      { connection with globals := connection.globals.step (.collect number) } [] := by
  obtain ⟨box, nextReply⟩ := collect_same connection.globals number
  exact { LinkEffect.refl connection with
    left := fun left => ⟨left, rfl, rfl, box⟩
    globals := connection.globals.step_sender_effect (.collect number)
    linkage := fun linkage =>
      ⟨by rw [box]; exact linkage.rooms, fun linked => by rw [box]; exact linkage.present linked,
        fun left => by rw [box]; exact linkage.absent left⟩
    asksInOrder := fun inOrder => inOrder.of_same (by rw [box]) (by rw [box]) nextReply }

theorem linkEffect_leave {before : Connection η τ} (linked : before.linked = true)
    (nobodyOpens : before.opens.blocked = []) (nobodyAsks : before.globals.box.blocked = []) :
    LinkEffect before before.dropLink [] :=
  { LinkEffect.refl before with
    left := fun left => Bool.noConfusion (linked.symm.trans left)
    opens := .of_same rfl rfl
    globals := .of_same rfl rfl (Nat.le_refl _)
    linkage := fun linkage => by
      obtain ⟨opens, globals⟩ := linkage.present linked
      refine ⟨linkage.rooms, fun stays => absurd stays Bool.false_ne_true,
        fun _ => ⟨⟨?_, ?_⟩, nobodyOpens, nobodyAsks⟩⟩
      · show before.opens.senders - 1 = 0
        rw [opens]
      · show before.globals.box.senders - 1 = 0
        rw [globals]
    opensInOrder := fun inOrder => inOrder.of_same rfl rfl rfl
    asksInOrder := fun inOrder => inOrder.of_same rfl rfl rfl }

theorem performLink_effect {before : Connection η τ} (linked : before.linked = true)
    (act : LinkAct) :
    LinkEffect before (before.performLink act)
      (before.reportedBy (.link act : ConnectionAct handling)) := by
  cases act with
  | authenticate context =>
      have heard : before.reportedBy (.link (.authenticate context) : ConnectionAct handling) =
          [context] := if_pos linked
      rw [heard]
      exact linkEffect_authenticate linked context
  | announce sender offer =>
      exact linkEffect_opens linked (before.opens.offer_brings sender _) (.offer _ _ _)
        fun inOrder => Mailbox.inOrder_offer inOrder sender rfl
  | retryOpen sender =>
      exact linkEffect_opens linked (before.opens.retry_brings sender) (.retry _ _)
        fun inOrder => Mailbox.inOrder_retry inOrder sender
  | withdrawOpen sender =>
      exact linkEffect_opens linked (.of_same rfl rfl) ⟨rfl, rfl⟩
        fun inOrder => Mailbox.inOrder_withdraw inOrder sender
  | request sender kind payload =>
      exact linkEffect_globals linked (.offer _ _ _)
        fun inOrder => Mailbox.inOrder_offer inOrder sender rfl
  | retryRequest sender =>
      exact linkEffect_globals linked (.retry _ _)
        fun inOrder => Mailbox.inOrder_retry inOrder sender
  | withdrawRequest sender =>
      exact linkEffect_globals linked ⟨rfl, rfl⟩
        fun inOrder => Mailbox.inOrder_withdraw inOrder sender
  | leave =>
      unfold performLink
      dsimp only
      split
      next nobody => exact linkEffect_leave linked nobody.1 nobody.2
      · exact .refl before

theorem stepOfLink_effect (connection : Connection η τ) (act : LinkAct) :
    LinkEffect connection (connection.stepOfLink act)
      (connection.reportedBy (.link act : ConnectionAct handling)) := by
  unfold stepOfLink
  split
  next linked => exact performLink_effect linked act
  next left =>
    have unheard : connection.reportedBy (.link act : ConnectionAct handling) = [] := by
      cases act with
      | authenticate context => exact if_neg left
      | _ => rfl
    rw [unheard]
    exact .refl connection

/-! ### What one operation can do -/

variable (handling) in
/-- What an operation can do to a connection, with what is seen of it. -/
inductive Turn (before : Connection η τ) : Dealings τ → Connection η τ → Prop where
  | link (after : Connection η τ) (reported : List Context)
      (effect : LinkEffect before after reported) :
      Turn before
        { reported
          opened := Mailbox.newItems before.opens after.opens
          asked := RequestStream.newRequests before.globals after.globals } after
  | began (context : Context) (handshake : before.phase = .handshake)
      (known : before.identity = some context) :
      Turn before {} { before with phase := .serving context }
  | failed (handshake : before.phase = .handshake) (unknown : before.identity = none)
      (left : before.linked = false) :
      Turn before { answered := refusals before.globals.box.items.toList }
        (before.finish handling (.finished (.error handshakeFailure)))
  | refused (context : Context) (number : Nat) (offer : ChannelOffer)
      (opens : Mailbox (Nat × ChannelOffer)) (serving : before.phase = .serving context)
      (taken : before.opens.take? = some ((number, offer), opens))
      (unserved : before.handlers.find? offer.channelType = none) :
      Turn before {}
        { before with
          opens
          refused := before.refused ++ [(number, .unsupported offer.channelType)]
          log := before.log ++ [.channelRejected (.unsupportedChannelType offer.channelType)] }
  | handed (context : Context) (number : Nat) (offer : ChannelOffer)
      (opens : Mailbox (Nat × ChannelOffer)) (handler : η) (awaited : Bool)
      (serving : before.phase = .serving context)
      (taken : before.opens.take? = some ((number, offer), opens))
      (served : before.handlers.find? offer.channelType = some handler) :
      Turn before
        { handed := [{ number, state := handling.begin handler context offer awaited }] }
        { before with
          opens
          tasks := before.tasks ++
            [{ number, state := handling.begin handler context offer awaited }] }
  | ended (context : Context) (serving : before.phase = .serving context)
      (nothing : before.opens.take? = none) (isEnded : before.opens.ended = true) :
      Turn before { answered := refusals before.globals.box.items.toList }
        (before.finish handling (.finished (.ok ())))
  | answered (context : Context) (request : Request) (globals : RequestStream)
      (serving : before.phase = .serving context)
      (taken : before.globals.take? = some (request, globals)) :
      Turn before { answered := History.reply request false }
        ({ before with globals }.refuseGlobal request)
  /-- Handlers go on, or are heard of. -/
  | went (tasks : List (HandlerTask τ)) (log : List LogEntry)
      (goesOn : List.Forall₂ (HandlerTask.GoesOn handling) before.tasks tasks) :
      Turn before {} { before with tasks, log }

/-- What is seen of an operation that reports nothing can be read off the state after it. -/
theorem seenBy_of {before after : Connection η τ} {act : ConnectionAct handling}
    (step : before.stepBy act = after) (silent : before.reportedBy act = [])
    {opened : List (Nat × ChannelOffer)} {handed : List (HandlerTask τ)} {asked : List Request}
    {answered : List (Nat × Bool)} (opens : Mailbox.newItems before.opens after.opens = opened)
    (tasks : after.tasks.drop before.tasks.length = handed)
    (requests : RequestStream.newRequests before.globals after.globals = asked)
    (answers : after.globals.answers.drop before.globals.answers.length = answered) :
    before.seenBy act = { opened, handed, asked, answered } := by
  unfold seenBy openedBy handedBy askedBy answeredBy
  rw [step, silent, opens, tasks, requests, answers]

theorem newItems_of_take {α : Type} {box rest : Mailbox α} {item : α}
    (taken : box.take? = some (item, rest)) : Mailbox.newItems box rest = [] := by
  refine Mailbox.newItems_of_length_le ?_
  rw [Mailbox.toList_of_take? taken]
  exact Nat.le_succ _

variable {connection : Connection η τ} {act : ConnectionAct handling}

/-- An operation that moves nothing but handlers. -/
theorem turn_of_tasks (tasks : List (HandlerTask τ)) (log : List LogEntry)
    (step : connection.stepBy act = { connection with tasks, log })
    (silent : connection.reportedBy act = [])
    (goesOn : List.Forall₂ (HandlerTask.GoesOn handling) connection.tasks tasks) :
    Turn handling connection (connection.seenBy act) (connection.stepBy act) := by
  have nothingNew : tasks.drop connection.tasks.length = [] := by
    rw [goesOn.length_eq]
    exact List.drop_length
  rw [seenBy_of step silent (Mailbox.newItems_of_length_le (Nat.le_refl _)) nothingNew
    (RequestStream.newRequests_of_length_le (Nat.le_refl _)) List.drop_length, step]
  exact .went tasks log goesOn

theorem turn_of_idle (step : connection.stepBy act = connection)
    (silent : connection.reportedBy act = []) :
    Turn handling connection (connection.seenBy act) (connection.stepBy act) :=
  turn_of_tasks connection.tasks connection.log step silent
    (List.forall₂_same.2 fun task _ => .refl task)

/-- Tasks of one number, or all of them, go on in a way that every task may. -/
theorem goesOn_map {tasks : List (HandlerTask τ)} {change : HandlerTask τ → HandlerTask τ}
    (goesOn : ∀ task ∈ tasks, HandlerTask.GoesOn handling task (change task)) :
    List.Forall₂ (HandlerTask.GoesOn handling) tasks (tasks.map change) :=
  List.forall₂_map_right_iff.2 (List.forall₂_same.2 goesOn)

/-- The end of the serving, with what is seen of it. -/
theorem seenBy_of_finish (phase : ServePhase)
    (step : connection.stepBy act = connection.finish handling phase)
    (silent : connection.reportedBy act = []) :
    connection.seenBy act = { answered := refusals connection.globals.box.items.toList } := by
  refine seenBy_of step silent (Mailbox.newItems_of_length_le (Nat.zero_le _)) ?_
    (RequestStream.newRequests_of_length_le (Nat.zero_le _)) ?_
  · show (connection.tasks.map _).drop connection.tasks.length = []
    exact List.drop_of_length_le (Nat.le_of_eq (List.length_map _))
  · show (connection.globals.box.items.toList.foldl RequestStream.discard
      connection.globals).answers.drop _ = _
    rw [RequestStream.answers_foldl_discard, List.drop_left]

/-- A turn of the serving that waits for the transport's report. -/
theorem handshake_turn (handshake : connection.phase = .handshake) :
    Turn handling connection
      (connection.seenBy (.serve .handshake : ConnectionAct handling))
      (connection.stepBy (.serve .handshake : ConnectionAct handling)) := by
  have turn : connection.stepBy (.serve .handshake : ConnectionAct handling) =
      (connection.step? handling).getD connection := by
    simp only [stepBy, turn?, handshake]
  unfold step? at turn
  rw [handshake] at turn
  dsimp only at turn
  split at turn
  next context known =>
    rw [seenBy_of turn rfl (Mailbox.newItems_of_length_le (Nat.le_refl _)) List.drop_length
      (RequestStream.newRequests_of_length_le (Nat.le_refl _)) List.drop_length, turn]
    exact .began context handshake known
  next unknown =>
    split at turn
    · exact turn_of_idle turn rfl
    next left =>
      rw [seenBy_of_finish _ turn rfl, turn]
      exact .failed handshake unknown (Bool.not_eq_true _ ▸ left)

/-- A turn of the serving that listens to the opens. -/
theorem opens_turn {context : Context} (serving : connection.phase = .serving context) :
    Turn handling connection (connection.seenBy (.serve .opens : ConnectionAct handling))
      (connection.stepBy (.serve .opens : ConnectionAct handling)) := by
  have turn : connection.stepBy (.serve .opens : ConnectionAct handling) =
      (connection.hearOpens? handling context).getD connection := by
    simp only [stepBy, turn?, serving]
  unfold hearOpens? at turn
  split at turn
  next number offer opens taken =>
    unfold dispatch at turn
    dsimp only at turn
    split at turn
    next unserved =>
      rw [seenBy_of turn rfl (newItems_of_take taken) List.drop_length
        (RequestStream.newRequests_of_length_le (Nat.le_refl _)) List.drop_length, turn]
      exact .refused context number offer opens serving taken unserved
    next handler served =>
      rw [seenBy_of turn rfl (newItems_of_take taken) List.drop_left
        (RequestStream.newRequests_of_length_le (Nat.le_refl _)) List.drop_length, turn]
      exact .handed context number offer opens handler _ serving taken served
  next nothing =>
    split at turn
    next isEnded =>
      rw [seenBy_of_finish _ turn rfl, turn]
      exact .ended context serving nothing isEnded
    · exact turn_of_idle turn rfl

/-- A turn of the serving that listens to the requests about the connection. -/
theorem globals_turn {context : Context} (serving : connection.phase = .serving context) :
    Turn handling connection (connection.seenBy (.serve .globals : ConnectionAct handling))
      (connection.stepBy (.serve .globals : ConnectionAct handling)) := by
  have turn : connection.stepBy (.serve .globals : ConnectionAct handling) =
      connection.hearGlobals?.getD connection := by
    simp only [stepBy, turn?, serving]
  unfold hearGlobals? at turn
  split at turn
  next request globals taken =>
    have fewer : Mailbox.newItems connection.globals.box globals.box = [] ∧
        globals.answers = connection.globals.answers := by
      simp only [RequestStream.take?, Option.map_eq_some_iff, Prod.exists, Prod.mk.injEq] at taken
      obtain ⟨first, box, takenBox, rfl, rfl⟩ := taken
      exact ⟨newItems_of_take takenBox, rfl⟩
    have noneNew : RequestStream.newRequests connection.globals
        (globals.answer request false) = [] := by
      unfold RequestStream.newRequests
      rw [RequestStream.box_answer]
      exact fewer.1
    have given : (globals.answer request false).answers.drop
        connection.globals.answers.length = History.reply request false := by
      rw [Session.answers_answer, fewer.2, List.drop_left]
    rw [seenBy_of turn rfl (Mailbox.newItems_of_length_le (Nat.le_refl _)) List.drop_length
      noneNew given, turn]
    exact .answered context request globals serving taken
  · exact turn_of_idle turn rfl

/-- A turn of the serving that hears of the end of a handler. -/
theorem ended_turn {context : Context} (serving : connection.phase = .serving context)
    (number : Nat) :
    Turn handling connection
      (connection.seenBy (.serve (.ended number) : ConnectionAct handling))
      (connection.stepBy (.serve (.ended number) : ConnectionAct handling)) := by
  have turn : connection.stepBy (.serve (.ended number) : ConnectionAct handling) =
      (connection.hearEnd? handling number).getD connection := by
    simp only [stepBy, turn?, serving]
  unfold hearEnd? at turn
  split at turn
  · exact turn_of_idle turn rfl
  next ended _ =>
    refine turn_of_tasks _ _ turn rfl (goesOn_map fun task _ => ?_)
    split
    · exact ⟨rfl, id, fun _ => id⟩
    · exact .refl task

theorem moveHandler_turn (number : Nat) (move : handling.Move) :
    Turn handling connection (connection.seenBy (.handler number move))
      (connection.stepBy (.handler number move)) := by
  refine turn_of_tasks _ _ rfl rfl (goesOn_map fun task _ => ?_)
  split
  · exact task.move_goesOn move
  · exact .refl task

theorem touchHandler_turn (number : Nat) (touch : handling.Touch) :
    Turn handling connection (connection.seenBy (.touch number touch))
      (connection.stepBy (.touch number touch)) := by
  refine turn_of_tasks _ connection.log rfl rfl (goesOn_map fun task _ => ?_)
  split
  · exact task.touch_goesOn touch
  · exact .refl task

/-- An operation of the transport. -/
theorem turn_of_link {after : Connection η τ} {reported : List Context}
    (step : connection.stepBy act = after) (heard : connection.reportedBy act = reported)
    (effect : LinkEffect connection after reported) :
    Turn handling connection (connection.seenBy act) (connection.stepBy act) := by
  have seen : connection.seenBy act =
      { reported
        opened := Mailbox.newItems connection.opens after.opens
        asked := RequestStream.newRequests connection.globals after.globals } := by
    unfold seenBy openedBy handedBy askedBy answeredBy
    rw [step, heard, effect.tasks, List.drop_length,
      List.drop_of_length_le effect.globals.answers]
  rw [seen, step]
  exact .link after reported effect

/-- Whatever is done, it is one of these. -/
theorem stepBy_turn (connection : Connection η τ) (act : ConnectionAct handling) :
    Turn handling connection (connection.seenBy act) (connection.stepBy act) := by
  cases act with
  | link act => exact turn_of_link rfl rfl (connection.stepOfLink_effect act)
  | collect number => exact turn_of_link rfl rfl (connection.linkEffect_collect number)
  | desert number =>
      have effect : LinkEffect connection (connection.desert number) [] :=
        { LinkEffect.refl connection with
          linkage := fun linkage => ⟨linkage.rooms, linkage.present, linkage.absent⟩
          opensInOrder := fun inOrder => inOrder.of_same rfl rfl rfl
          asksInOrder := fun inOrder => inOrder.of_same rfl rfl rfl }
      exact turn_of_link rfl rfl effect
  | handler number move => exact moveHandler_turn number move
  | touch number touch => exact touchHandler_turn number touch
  | serve turn =>
      have deaf : connection.turn? handling turn = none →
          Turn handling connection (connection.seenBy (.serve turn : ConnectionAct handling))
            (connection.stepBy (.serve turn : ConnectionAct handling)) := fun nothing =>
        turn_of_idle (by simp only [stepBy, nothing, Option.getD_none]) rfl
      cases phase : connection.phase with
      | handshake =>
          cases turn with
          | handshake => exact handshake_turn phase
          | opens | globals | ended => exact deaf (by simp only [turn?, phase])
      | serving context =>
          cases turn with
          | handshake => exact deaf (by simp only [turn?, phase])
          | opens => exact opens_turn phase
          | globals => exact globals_turn phase
          | ended number => exact ended_turn phase number
      | finished | cancelled => exact deaf (by simp only [turn?, phase])

end Connection

end SshServer
