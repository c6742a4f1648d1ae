import SshServer.Channel.Basic
import SshServer.Connection.Registry
import SshServer.Identity
import SshServer.Log

/-!
Contract: the serving of one connection, from the handshake to the departure of its transport.

Owns: the identity that the transport reports once, the routing of every open to the handler of its
type, the refusal of requests about the connection, the handlers that are under way, and the end of
the serving.
Does not own: what handlers do. A `Handling` says that, and the serving holds for any of them.

Nothing is routed and nothing answered before the transport has reported who the peer is. When the
serving ends, however it ends, no handler is left running and nothing that was waiting is left
undecided.
-/

namespace SshServer

/-- Opens that a connection holds before the transport waits. -/
def openBuffer : Nat := 16

/-- How a handler of a channel ended. -/
inductive TaskEnd where
  | returned
  | panicked
deriving DecidableEq, Repr

/-- How handlers of the kind `η` work, each in a state of its own. -/
structure Handling (η τ : Type) where
  /-- A handler is given an offer. The flag says whether the transport still waits for
  the decision. -/
  begin : η → Context → ChannelOffer → Bool → τ
  /-- One step with what it remarks; none where the handler waits or has ended. -/
  step? : τ → Option (τ × List LogEntry)
  /-- The decision that the handler has made. -/
  decision? : τ → Option Decision
  ended? : τ → Option TaskEnd
  cancel : τ → τ

/-- A handler that was given an offer. -/
structure HandlerTask (τ : Type) where
  number : Nat
  state : τ
  /-- Whether the serving has taken notice of its end. -/
  noticed : Bool := false
  cancelled : Bool := false

namespace HandlerTask

variable {η τ : Type} (handling : Handling η τ)

def isOver (task : HandlerTask τ) : Bool :=
  task.cancelled || (handling.ended? task.state).isSome

/-- What the transport hears about the offer. A handler that ended without a decision has
abandoned it. -/
def decision? (task : HandlerTask τ) : Option Decision :=
  match handling.decision? task.state with
  | some decision => some decision
  | none => if task.isOver handling then some (.error .abandoned) else none

/-- Stops the handler, if it runs. -/
def cancel (task : HandlerTask τ) : HandlerTask τ :=
  if task.isOver handling then task
  else { task with state := handling.cancel task.state, cancelled := true }

end HandlerTask

inductive ServePhase where
  /-- The transport has not reported who the peer is. -/
  | handshake
  | serving (context : Context)
  | finished (result : Except Failure Unit)
  | cancelled

/-- A connection with what both of its ends hold. -/
structure Connection (η τ : Type) where
  handlers : Registry η
  phase : ServePhase := .handshake
  linked : Bool := true
  identity : Option Context := none
  /-- Offers on their way, each with the number of its open. -/
  opens : Mailbox (Nat × ChannelOffer) := { capacity := openBuffer }
  nextOpen : Nat := 0
  deserted : List Nat := []
  globals : RequestStream := {}
  tasks : List (HandlerTask τ) := []
  /-- Opens that were refused before a handler had them. -/
  refused : List (Nat × Rejection) := []
  log : List LogEntry := []

namespace Connection

variable {η τ : Type}

/-! ### The transport's end -/

/-- Reports who the peer is. Only the first report counts. -/
def authenticate (connection : Connection η τ) (context : Context) : Connection η τ :=
  match connection.identity with
  | some _ => connection
  | none => { connection with identity := some context }

/-- Announces a channel; `sender` names the transport should it have to wait. -/
def announce (connection : Connection η τ) (sender : Nat) (offer : ChannelOffer) :
    Connection η τ × Nat × Mailbox.Sent :=
  let number := connection.nextOpen
  let (opens, sent) := connection.opens.offer sender (number, offer)
  ({ connection with opens, nextOpen := number + 1 }, number, sent)

def desert (connection : Connection η τ) (number : Nat) : Connection η τ :=
  { connection with deserted := number :: connection.deserted }

def dropLink (connection : Connection η τ) : Connection η τ :=
  { connection with
    linked := false
    opens := connection.opens.dropSender
    globals := connection.globals.dropSender }

/-! ### Serving -/

variable (handling : Handling η τ)

/-- Gives an offer to the handler of its type, or refuses it where there is none. -/
def dispatch (connection : Connection η τ) (context : Context) (number : Nat)
    (offer : ChannelOffer) : Connection η τ :=
  match connection.handlers.find? offer.channelType with
  | none =>
    { connection with
      refused := connection.refused ++ [(number, .unsupported offer.channelType)]
      log := connection.log ++
        [.channelRejected (.unsupportedChannelType offer.channelType)] }
  | some handler =>
    let awaited := !connection.deserted.contains number
    { connection with
      tasks := connection.tasks ++
        [{ number, state := handling.begin handler context offer awaited }] }

/-- Refuses a request about the connection. -/
def refuseGlobal (connection : Connection η τ) (request : Request) : Connection η τ :=
  { connection with
    globals := connection.globals.answer request false
    log := connection.log ++ [.globalRequestRefused request.kind] }

/-- Takes notice of the end of a handler, if one has ended since the last time. -/
def noticeEnd? (connection : Connection η τ) : Option (Connection η τ) :=
  match connection.tasks.find? fun task => !task.noticed && task.isOver handling with
  | none => none
  | some ended =>
    some { connection with
      tasks := connection.tasks.map fun task =>
        if task.number == ended.number then { task with noticed := true } else task
      log :=
        match handling.ended? ended.state with
        | some .panicked => connection.log ++ [.channelHandlerPanicked]
        | _ => connection.log }

/-- The serving ends: every handler is stopped, and what waits is decided against. -/
def finish (connection : Connection η τ) (phase : ServePhase) : Connection η τ :=
  { connection with
    phase
    tasks := connection.tasks.map (HandlerTask.cancel handling)
    refused := connection.refused ++
      connection.opens.items.toList.map fun entry => (entry.1, .abandoned)
    opens := connection.opens.detach
    globals := connection.globals.detach }

def handshakeFailure : Failure :=
  .handshake "connection closed before authentication completed"

/-- One step of the serving; none where it waits, or is over. -/
def step? (connection : Connection η τ) : Option (Connection η τ) :=
  match connection.phase with
  | .handshake =>
    match connection.identity with
    | some context => some { connection with phase := .serving context }
    | none =>
      if connection.linked then none
      else some (connection.finish handling (.finished (.error handshakeFailure)))
  | .serving context =>
    match connection.opens.take? with
    | some ((number, offer), opens) =>
      some ({ connection with opens }.dispatch handling context number offer)
    | none =>
      if connection.opens.ended then some (connection.finish handling (.finished (.ok ())))
      else
        match connection.globals.take? with
        | some (request, globals) => some ({ connection with globals }.refuseGlobal request)
        | none => connection.noticeEnd? handling
  | .finished _ | .cancelled => none

/-- The serving is given up from outside. -/
def abort (connection : Connection η τ) : Connection η τ :=
  match connection.phase with
  | .finished _ | .cancelled => connection
  | _ => connection.finish handling .cancelled

/-- One step of a handler; none where it cannot make one. -/
def stepTask? (task : HandlerTask τ) : Option (HandlerTask τ × List LogEntry) :=
  if task.isOver handling then none
  else (handling.step? task.state).map fun (state, log) => ({ task with state }, log)

/-- Lets every handler that can go on make a step; none where no handler can. -/
def stepTasks? (connection : Connection η τ) : Option (Connection η τ) :=
  let steps := connection.tasks.map fun task => (task, stepTask? handling task)
  if steps.all fun step => step.2.isNone then none
  else
    some { connection with
      tasks := steps.map fun (task, step) => (step.map Prod.fst).getD task
      log := connection.log ++ steps.flatMap fun (_, step) => (step.map Prod.snd).getD [] }

/-- One step of the serving or else of the handlers. -/
def advance? (connection : Connection η τ) : Option (Connection η τ) :=
  connection.step? handling <|> connection.stepTasks? handling

def decision? (connection : Connection η τ) (number : Nat) : Option Decision :=
  match connection.refused.lookup number with
  | some rejection => some (.error rejection)
  | none =>
    (connection.tasks.find? fun task => task.number == number).bind
      (HandlerTask.decision? handling)

end Connection

end SshServer
