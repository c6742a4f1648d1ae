import SshServer.Rehearsal.Stage

/-!
Contract: what the peer of an accepted channel can start and wait for.

Owns: the sending of input and of requests as tasks, attempts at them that do not wait, the joining
of messages that were received, and the precedence of sends that were granted credit.
Does not own: what the peer can do without waiting, which each rehearsal has for itself.
-/

namespace SshServer.Rehearsal

inductive PeerTask where
  | send (chunk : ByteArray)
  | sending
  | request (kind : String) (payload : ByteArray) (wantReply : Bool)
  /-- Waits for room for a request, the answer to which is awaited under the number. -/
  | requesting (reply : Option Nat)
  | awaiting (reply : Nat)
deriving DecidableEq

namespace PeerTask

/-- A request is under way: collects its answer, if it wants one. -/
def afterRequest (reply : Option Nat) (stream : RequestStream) : RequestStream × Turn PeerTask :=
  match reply with
  | none => (stream, .finished (.flag true))
  | some number =>
    match stream.collect? number with
    | none => (stream, .waits (.awaiting number))
    | some (verdict, stream) => (stream, .finished (.flag verdict))

/-- What a request comes to after an attempt to send it. -/
def afterOffer (reply : Option Nat) :
    RequestStream × Mailbox.Sent → RequestStream × Turn PeerTask
  | (stream, .queued) => afterRequest reply stream
  | (stream, .waiting) => (stream, .waits (.requesting reply))
  | (stream, .refused) => (stream, .finished (.flag false))

/-- What a chunk of input comes to after an attempt to send it. -/
def afterChunk : Mailbox.Sent → Turn PeerTask
  | .queued => .finished (.flag true)
  | .waiting => .waits .sending
  | .refused => .finished (.flag false)

def proceed (id : Nat) (task : PeerTask) (channel : Channel) : Channel × Turn PeerTask :=
  match task with
  | .send chunk =>
    let (input, sent) := channel.input.offer id chunk
    ({ channel with input }, afterChunk sent)
  | .sending =>
    let (input, sent) := channel.input.retry id
    ({ channel with input }, afterChunk sent)
  | .request kind payload wantReply =>
    let (requests, made) := channel.requests.issue kind payload wantReply
    let (requests, turn) := afterOffer made.reply (requests.offer id made)
    ({ channel with requests }, turn)
  | .requesting reply =>
    let (requests, turn) := afterOffer reply (channel.requests.retry id)
    ({ channel with requests }, turn)
  | .awaiting number =>
    let (requests, turn) := afterRequest (some number) channel.requests
    ({ channel with requests }, turn)

/-- Whether a sender that waits for room can go on. -/
def roomFor {α : Type} (id : Nat) (box : Mailbox α) : Bool :=
  !box.attached || (box.hasRoom && (box.blocked.head?.map Prod.fst == some id))

def ready (id : Nat) (task : PeerTask) (channel : Channel) : Bool :=
  match task with
  | .send _ | .request _ _ _ => true
  | .sending => roomFor id channel.input.box
  | .requesting _ => roomFor id channel.requests.box
  | .awaiting number => channel.requests.answers.any fun entry => entry.1 == number

def abort (id : Nat) (task : PeerTask) (channel : Channel) : Channel :=
  match task with
  | .sending => { channel with input := channel.input.withdraw id }
  | .requesting _ =>
    { channel with
        requests := { channel.requests with box := channel.requests.box.withdraw id } }
  | _ => channel

/-- A task of the peer holds a handle of its own to send with. -/
def hold (task : PeerTask) (channel : Channel) : Channel :=
  match task with
  | .send _ | .sending => { channel with input := channel.input.addSender }
  | _ => { channel with requests := channel.requests.addSender }

/-- Gives back the handle that a task held. -/
def retire (task : PeerTask) (channel : Channel) : Channel :=
  match task with
  | .send _ | .sending => { channel with input := channel.input.dropSender }
  | _ => { channel with requests := channel.requests.dropSender }

/-- Tries a task until nothing can go on, and then gives it up. The stage has the channel that
`view` shows and `update` replaces. -/
def attempt {σ : Type} (view : σ → Channel) (update : σ → Channel → σ) (settle : σ → σ) (id : Nat)
    (task : PeerTask) (stage : σ) : σ × Outcome :=
  let (channel, turn) := task.proceed id (view stage)
  let stage := update stage channel
  match turn with
  | .finished outcome => (stage, outcome)
  | .waits task =>
    let stage := settle stage
    let (channel, turn) :=
      if task.ready id (view stage) then task.proceed id (view stage) else (view stage, .waits task)
    let stage := update stage channel
    match turn with
    | .finished outcome => (stage, outcome)
    | .waits task => (update stage (task.abort id channel), .blocked)

end PeerTask

/-- Adds a message behind others, joining plain data with plain data before it. The list is kept
in reverse. -/
def joinMessage (seen : List Message) (message : Message) : List Message :=
  match seen, message with
  | .data before :: rest, .data after => .data (before ++ after) :: rest
  | seen, message => message :: seen

/-- The precedence of a send that waits for credit: its place among those that were granted some. -/
def creditRank (ticket : Nat) (box : Outbox) : Nat :=
  box.credit.granted.findIdx fun grant => grant.1 == ticket

/-- Whether a send that waits for credit can go on. -/
def creditReady (ticket : Nat) (box : Outbox) : Bool :=
  box.credit.closed || box.credit.granted.any fun grant => grant.1 == ticket

end SshServer.Rehearsal
