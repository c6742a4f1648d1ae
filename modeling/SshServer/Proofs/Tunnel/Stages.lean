import Mathlib.Data.List.Induction
import SshServer.Proofs.Session.LettingGo
import SshServer.Proofs.Tunnel.Fidelity
import SshServer.Tunnel.Opening

/-!
Contract: the stages of an offered tunnel, from the offer to its end.

Owns: the operations of the handler of a tunnel, of the network, of the peer and of the transport;
runs of them; what an onlooker sees; and that this accords with the stage that the tunnel has come
to.
Does not own: what follows for the decision (`Proofs.Tunnel.Decision`), and what a tunnel passes on
(`Proofs.Tunnel.Fidelity`).

Dialling takes time, in which the transport can stop waiting for the decision. An accepted tunnel
still has its requests at first: those that come before it lets go of them are queued, and are
refused all the same.
-/

namespace SshServer

/-! ### The stages of a tunnel -/

/-- Where an offered tunnel is. -/
inductive TunnelStage (σ : Type) where
  | offered
  | dialling (host : String) (port : UInt16) (target : String)
  | refused (refusal : TunnelRefusal)
  /-- The target was reached. Requests are let go of when the relaying begins. -/
  | opened (begun : Bool) (relay : Relay σ)

/-- A tunnel that the peer wants to open. -/
structure TunnelTask (σ : Type) where
  policy : TunnelPolicy
  offer : ChannelOffer
  /-- Whether the transport waits for the decision. -/
  awaited : Bool := true
  stage : TunnelStage σ := .offered

inductive TunnelAct (σ : Type) where
  /-- The offer is read. -/
  | read
  /-- Dialling comes to an answer. -/
  | answer (answer : DialAnswer σ)
  /-- The transport stops waiting for the decision. -/
  | desert
  /-- The tunnel lets go of its requests, and begins to relay. -/
  | begin
  | relay (act : RelayAct σ)
  | request (act : RequestAct)

/-- Whether an operation is a turn of one of the two directions. -/
def RelayAct.isTurn {σ : Type} : RelayAct σ → Bool
  | .outward | .inward | .hangUp => true
  | .peer _ | .transport _ | .target _ => false

/-- What an onlooker sees of an offered tunnel. -/
structure TunnelRecord (σ : Type) where
  dialled : List (String × UInt16) := []
  /-- What dialling came to. -/
  heard : List (DialAnswer σ) := []
  /-- The decisions, each time that there is another than before. -/
  decided : List Decision := []
  /-- The requests that were queued. -/
  asked : List Request := []
  /-- The answers that were given to requests. -/
  answered : List (Nat × Bool) := []
  /-- The messages that were queued for the peer. -/
  queued : List Message := []

namespace TunnelRecord

variable {σ : Type}

/-- What is seen first, and then more. -/
def add (first later : TunnelRecord σ) : TunnelRecord σ where
  dialled := first.dialled ++ later.dialled
  heard := first.heard ++ later.heard
  decided := first.decided ++ later.decided
  asked := first.asked ++ later.asked
  answered := first.answered ++ later.answered
  queued := first.queued ++ later.queued

@[simp] theorem add_nothing (record : TunnelRecord σ) : record.add {} = record := by
  unfold add
  simp only [List.append_nil]

@[simp] theorem nothing_add (record : TunnelRecord σ) : add {} record = record := rfl

end TunnelRecord

namespace TunnelTask

variable {σ : Type}

def relay? (task : TunnelTask σ) : Option (Relay σ) :=
  match task.stage with
  | .opened _ relay => some relay
  | .offered | .dialling _ _ _ | .refused _ => none

def decision? (task : TunnelTask σ) : Option Decision :=
  match task.stage with
  | .offered | .dialling _ _ _ => none
  | .refused refusal => some (.error refusal.rejection)
  | .opened _ _ => some (.ok ())

/-- Whether the handler of the tunnel has returned. -/
def returned (task : TunnelTask σ) : Bool :=
  match task.stage with
  | .refused _ => true
  | .opened begun relay => begun && relay.result.isSome
  | .offered | .dialling _ _ _ => false

/-- The tunnel as one that was decided about, once there is nothing left of the opening. -/
def tunnel? (task : TunnelTask σ) : Option (Tunnel σ) :=
  match task.stage with
  | .refused refusal => some (.refused refusal)
  | .opened true relay => some (.opened relay)
  | .opened false _ | .offered | .dialling _ _ _ => none

variable (ops : TargetOps σ)

def stepStage (task : TunnelTask σ) : TunnelStage σ → TunnelAct σ → TunnelStage σ
  | .offered, .read =>
    match dialTarget task.offer.extra with
    | .error refusal => .refused refusal
    | .ok (host, port, target) => .dialling host port target
  | .dialling _ _ target, .answer answer =>
    match task.policy.judge target answer with
    | .error refusal => .refused refusal
    | .ok stream => .opened false (.ofOffer task.offer task.awaited stream)
  | .opened false relay, .begin => .opened true relay.refuseRequests
  | .opened begun relay, .relay act =>
    .opened begun (if begun || !act.isTurn then relay.stepBy ops act else relay)
  | .opened begun relay, .request act =>
    let channel := relay.channel
    .opened begun
      { relay with channel := { channel with requests := channel.requests.step act } }
  | stage, _ => stage

/-- Once there is a decision, nobody waits for it. -/
def step (task : TunnelTask σ) : TunnelAct σ → TunnelTask σ
  | .desert => { task with awaited := task.awaited && task.decision?.isSome }
  | act => { task with stage := task.stepStage ops task.stage act }

def run (task : TunnelTask σ) (acts : List (TunnelAct σ)) : TunnelTask σ :=
  runFrom (step ops) task acts

/-! ### What is seen -/

def dialledBy (task : TunnelTask σ) (act : TunnelAct σ) : List (String × UInt16) :=
  match task.stage, act with
  | .offered, .read =>
    match dialTarget task.offer.extra with
    | .error _ => []
    | .ok (host, port, _) => [(host, port)]
  | _, _ => []

def heardBy (task : TunnelTask σ) (act : TunnelAct σ) : List (DialAnswer σ) :=
  match task.stage, act with
  | .dialling _ _ _, .answer answer => [answer]
  | _, _ => []

def decidedBy (task : TunnelTask σ) (act : TunnelAct σ) : List Decision :=
  if (task.step ops act).decision? = task.decision? then []
  else (task.step ops act).decision?.toList

/-- What shows at the tunnel, if there is one before and after an operation. -/
def shownBy {α : Type} (show? : Relay σ → Relay σ → List α) (task : TunnelTask σ)
    (act : TunnelAct σ) : List α :=
  match task.relay?, (task.step ops act).relay? with
  | some before, some after => show? before after
  | _, _ => []

def seenBy (task : TunnelTask σ) (act : TunnelAct σ) : TunnelRecord σ where
  dialled := task.dialledBy act
  heard := task.heardBy act
  decided := task.decidedBy ops act
  asked := task.shownBy ops
    (fun before after => before.channel.requests.newRequests after.channel.requests) act
  answered := task.shownBy ops
    (fun before after =>
      after.channel.requests.answers.drop before.channel.requests.answers.length) act
  queued := task.shownBy ops
    (fun before after => before.channel.output.newMessages after.channel.output) act

/-- What an onlooker sees over a run. -/
def seen (task : TunnelTask σ) (acts : List (TunnelAct σ)) : TunnelRecord σ where
  dialled := observed (step ops) dialledBy task acts
  heard := observed (step ops) heardBy task acts
  decided := observed (step ops) (decidedBy ops) task acts
  asked := observed (step ops) (shownBy ops
    (fun before after => before.channel.requests.newRequests after.channel.requests)) task acts
  answered := observed (step ops) (shownBy ops
    (fun before after =>
      after.channel.requests.answers.drop before.channel.requests.answers.length)) task acts
  queued := observed (step ops) (shownBy ops
    (fun before after => before.channel.output.newMessages after.channel.output)) task acts

theorem run_snoc (task : TunnelTask σ) (acts : List (TunnelAct σ)) (act : TunnelAct σ) :
    task.run ops (acts ++ [act]) = (task.run ops acts).step ops act :=
  runFrom_snoc (step ops) task acts act

end TunnelTask

/-! ### Requests -/

namespace RequestStream

/-- Senders give no answers. -/
theorem mem_answers_of_step {stream : RequestStream} {act : RequestAct} {entry : Nat × Bool}
    (member : entry ∈ (stream.step act).answers) : entry ∈ stream.answers := by
  cases act with
  | send sender kind payload wantReply =>
      unfold step issue at member
      cases wantReply with
      | true | false => exact member
  | collect number =>
      simp only [step, collect?] at member
      cases found : stream.answers.lookup number with
      | none =>
          rw [found] at member
          exact member
      | some verdict =>
          rw [found] at member
          exact (List.mem_filter.1 member).1
  | retry | withdraw | addSender | dropSender => exact member

theorem detach_answers (stream : RequestStream) :
    stream.detach.answers = stream.answers ++ refusals stream.box.items.toList :=
  stream.answers_foldl_discard _

theorem eq_false_of_mem_refusals {requests : List Request} {entry : Nat × Bool}
    (member : entry ∈ refusals requests) : entry.2 = false := by
  obtain ⟨request, -, isReply⟩ := List.mem_flatMap.1 member
  obtain ⟨number, -, rfl⟩ := Option.map_eq_some_iff.1 (Option.mem_toList.1 isReply)
  rfl

/-- The requests of a tunnel, with those that were queued and the answers that were given: they wait
until it lets go of them, and are refused then. -/
structure OfTunnel (stream : RequestStream) (begun : Bool) (asked : List Request)
    (answered : List (Nat × Bool)) : Prop where
  waiting : begun = false → stream.box.items.toList = asked ∧ answered = []
  letGo : begun = true → stream.box.attached = false ∧ stream.box.items.toList = [] ∧
    answered = refusals asked
  refused : ∀ entry ∈ stream.answers, entry.2 = false

section OfTunnel

variable {stream : RequestStream} {begun : Bool} {asked : List Request}
  {answered : List (Nat × Bool)}

theorem OfTunnel.step (stands : stream.OfTunnel begun asked answered) (act : RequestAct) :
    (stream.step act).OfTunnel begun (asked ++ stream.newRequests (stream.step act))
      (answered ++ (stream.step act).answers.drop stream.answers.length) := by
  have effect := stream.step_sender_effect act
  have noAnswer : (stream.step act).answers.drop stream.answers.length = [] :=
    List.drop_eq_nil_of_le effect.answers
  rw [noAnswer, List.append_nil]
  refine ⟨fun notBegun => ?_, fun isBegun => ?_, fun entry member => ?_⟩
  · obtain ⟨items, nothing⟩ := stands.waiting notBegun
    refine ⟨?_, nothing⟩
    rw [effect.items, items]
    rfl
  · obtain ⟨detached, nothing, all⟩ := stands.letGo isBegun
    have noRequest : stream.newRequests (stream.step act) = [] := effect.detached detached
    refine ⟨effect.attached.trans detached, ?_, ?_⟩
    · rw [effect.items, nothing]
      exact noRequest
    · rw [noRequest, List.append_nil]
      exact all
  · exact stands.refused entry (mem_answers_of_step member)

theorem OfTunnel.detach (stands : stream.OfTunnel false asked answered) :
    stream.detach.OfTunnel true (asked ++ stream.newRequests stream.detach)
      (answered ++ stream.detach.answers.drop stream.answers.length) := by
  obtain ⟨items, rfl⟩ := stands.waiting rfl
  have noRequest : stream.newRequests stream.detach = [] :=
    newRequests_of_length_le (Nat.zero_le _)
  rw [noRequest, List.append_nil, detach_answers, List.drop_left, items]
  refine ⟨fun notBegun => absurd notBegun Bool.true_eq_false.mp,
    fun _ => ⟨rfl, Fifo.toList_empty, rfl⟩, fun entry member => ?_⟩
  rw [detach_answers] at member
  rcases List.mem_append.1 member with before | now
  · exact stands.refused entry before
  · exact eq_false_of_mem_refusals now

end OfTunnel

end RequestStream

namespace Relay

variable {σ : Type} (ops : TargetOps σ)

/-! ### Relaying beside requests -/

theorem settle_requests (relay : Relay σ) :
    (relay.settle ops).channel.requests = relay.channel.requests := by
  unfold settle
  split <;> rfl

theorem afterSend_requests (relay : Relay σ) (sending : Outbox.Sending) :
    (relay.afterSend ops sending).channel.requests = relay.channel.requests := by
  unfold afterSend
  split <;> rfl

theorem forward_requests (relay : Relay σ) (content : ByteArray) :
    (relay.forward ops content).channel.requests = relay.channel.requests := by
  unfold forward
  split
  · split
    · exact settle_requests ops _
    · rfl
  · exact afterSend_requests ops _ _

theorem stepOut_requests (relay : Relay σ) :
    ((relay.stepOut? ops).getD relay).channel.requests = relay.channel.requests := by
  have turn := stepOut_turn ops relay
  generalize (relay.stepOut? ops).getD relay = after at turn ⊢
  generalize relay.writes ops = written at turn
  cases turn with
  | idle | took | wrote | through | broke => rfl
  | ended target => exact settle_requests ops _

theorem stepIn_requests (relay : Relay σ) :
    ((relay.stepIn? ops).getD relay).channel.requests = relay.channel.requests := by
  unfold stepIn?
  split
  · rfl
  · split
    · exact forward_requests ops _ _
    · rfl
    · split <;> rfl
  · split
    · rfl
    · exact afterSend_requests ops _ _

/-- A tunnel takes no interest in its requests. -/
theorem stepBy_requests (relay : Relay σ) (act : RelayAct σ) :
    (relay.stepBy ops act).channel.requests = relay.channel.requests := by
  have ofTurn : ∀ next : Option (Relay σ),
      (next.getD relay).channel.requests = relay.channel.requests →
      (relay.proceed next).channel.requests = relay.channel.requests := by
    intro next same
    unfold proceed
    split
    · rfl
    · exact same
  cases act with
  | outward => exact ofTurn _ (stepOut_requests ops relay)
  | inward => exact ofTurn _ (stepIn_requests ops relay)
  | hangUp =>
      refine ofTurn _ ?_
      unfold hangUp?
      split <;> rfl
  | peer | transport | target => rfl

/-- Where every message that was queued for the peer is accounted for. -/
def QueuedInAll (relay : Relay σ) (queued : List Message) : Prop :=
  ∃ fromPeer traffic, traffic.queued = queued ∧ relay.Accounted fromPeer traffic false

theorem QueuedInAll.step {relay : Relay σ} {queued : List Message}
    (accounted : relay.QueuedInAll queued) (act : RelayAct σ) :
    (relay.stepBy ops act).QueuedInAll
      (queued ++ relay.channel.output.newMessages (relay.stepBy ops act).channel.output) := by
  obtain ⟨fromPeer, traffic, rfl, account⟩ := accounted
  exact ⟨_, _, rfl, account.step ops act⟩

theorem QueuedInAll.withRequests {relay : Relay σ} {queued : List Message}
    (accounted : relay.QueuedInAll queued) (requests : RequestStream) :
    ({ relay with channel := { relay.channel with requests } } : Relay σ).QueuedInAll queued := by
  obtain ⟨fromPeer, traffic, isQueued, account⟩ := accounted
  refine ⟨fromPeer, traffic, isQueued, ?_⟩
  rcases account with ⟨flowing, unfinished⟩ | ⟨outcome, isOver⟩
  · exact .inl ⟨{ flowing with }, unfinished⟩
  · exact .inr ⟨outcome, { isOver with }⟩

theorem queuedInAll_ofOffer (offer : ChannelOffer) (awaited : Bool) (target : σ) :
    (ofOffer offer awaited target).QueuedInAll [] := by
  have fresh : (Channel.ofOffer offer awaited).output.sends = [] ∧
      (Channel.ofOffer offer awaited).output.closed = false := by
    cases awaited with
    | true | false => exact ⟨rfl, rfl⟩
  have account := accounted_at_start target fresh.1
  rw [fresh.2] at account
  exact ⟨_, {}, rfl, account⟩

theorem requests_ofOffer (offer : ChannelOffer) (awaited : Bool) (target : σ) :
    (ofOffer offer awaited target).channel.requests.OfTunnel false [] [] := by
  cases awaited with
  | true | false =>
      exact ⟨fun _ => ⟨Fifo.toList_empty, rfl⟩, fun isBegun => absurd isBegun Bool.false_ne_true,
        fun _ member => absurd member List.not_mem_nil⟩

/-- A tunnel that is over has queued the close last, if there was somebody to queue it for. -/
theorem QueuedInAll.ended {relay : Relay σ} {queued : List Message}
    (accounted : relay.QueuedInAll queued) (hasResult : relay.result.isSome = true) :
    relay.channel.output.closed = true ∧
      ∃ (datas : List ByteArray) (ended closed : Bool),
        queued = datas.map .data ++ Message.endings ended closed ∧
        (closed = true ∨ relay.channel.output.attached = false) := by
  obtain ⟨fromPeer, traffic, rfl, account⟩ := accounted
  obtain ⟨outcome, result⟩ := Option.isSome_iff_exists.1 hasResult
  have isOver := account.isOver result
  obtain ⟨ended, closed, passed, missing, -⟩ := isOver.passed
  obtain ⟨datas, -, queued, -⟩ := passed.inward
  refine ⟨isOver.closed, datas, ended, closed, queued, ?_⟩
  cases closed with
  | true => exact .inl rfl
  | false => exact .inr ((missing rfl).resolve_left Bool.false_ne_true)

end Relay

/-- Only a target that was reached is relayed to. -/
theorem TunnelPolicy.answer_of_judge {σ : Type} (policy : TunnelPolicy) {target : String}
    {answer : DialAnswer σ} {stream : σ} (judged : policy.judge target answer = .ok stream) :
    answer = .connected stream := by
  cases answer with
  | connected other =>
      obtain rfl := Except.ok.inj judged
      rfl
  | failed | silent => exact nomatch judged

namespace TunnelTask

variable {σ : Type} (ops : TargetOps σ)

/-! ### What is seen accords with what the offer asks for -/

/-- What has been seen of a tunnel, stage by stage. -/
inductive Accords (policy : TunnelPolicy) (offer : ChannelOffer) :
    TunnelRecord σ → TunnelStage σ → Prop where
  | offered : Accords policy offer {} .offered
  | unfit (refusal : TunnelRefusal) (unfit : dialTarget offer.extra = .error refusal) :
      Accords policy offer { decided := [.error refusal.rejection] } (.refused refusal)
  | dialling (host : String) (port : UInt16) (target : String)
      (fit : dialTarget offer.extra = .ok (host, port, target)) :
      Accords policy offer { dialled := [(host, port)] } (.dialling host port target)
  | unreached (host : String) (port : UInt16) (target : String) (answer : DialAnswer σ)
      (refusal : TunnelRefusal) (fit : dialTarget offer.extra = .ok (host, port, target))
      (unreached : policy.judge target answer = .error refusal) :
      Accords policy offer
        { dialled := [(host, port)], heard := [answer], decided := [.error refusal.rejection] }
        (.refused refusal)
  | opened (host : String) (port : UInt16) (target : String) (stream : σ) (begun : Bool)
      (relay : Relay σ) (asked : List Request) (answered : List (Nat × Bool))
      (queued : List Message) (fit : dialTarget offer.extra = .ok (host, port, target))
      (requests : relay.channel.requests.OfTunnel begun asked answered)
      (accounted : relay.QueuedInAll queued) :
      Accords policy offer
        { dialled := [(host, port)], heard := [.connected stream], decided := [.ok ()], asked,
          answered, queued }
        (.opened begun relay)

/-- Where an operation changes nothing and is not one that shows, nothing is seen. -/
theorem seenBy_of_same {task : TunnelTask σ} {act : TunnelAct σ}
    (same : (task.step ops act).stage = task.stage) (notDialled : task.dialledBy act = [])
    (notHeard : task.heardBy act = []) : task.seenBy ops act = {} := by
  have noDecision : task.decidedBy ops act = [] := by
    unfold decidedBy decision?
    rw [same, if_pos rfl]
  have sameRelay : (task.step ops act).relay? = task.relay? := by
    unfold relay?
    rw [same]
  unfold seenBy
  rw [notDialled, notHeard, noDecision]
  have nothing : ∀ {α : Type} (show? : Relay σ → Relay σ → List α),
      (∀ relay, show? relay relay = []) → task.shownBy ops show? act = [] := by
    intro α show? quiet
    unfold shownBy
    rw [sameRelay]
    split
    next before after isBefore isAfter =>
      obtain rfl := Option.some.inj (isBefore.symm.trans isAfter)
      exact quiet before
    · rfl
  rw [nothing _ fun relay => RequestStream.newRequests_of_length_le (Nat.le_refl _),
    nothing _ fun relay => List.drop_length, nothing _ fun relay =>
      Outbox.newMessages_of_queue_eq rfl]

/-- At a tunnel that was opened, requests, answers and messages show. -/
theorem seenBy_of_opened {task : TunnelTask σ} {act : TunnelAct σ} {wasBegun isBegun : Bool}
    {before after : Relay σ} (was : task.stage = .opened wasBegun before)
    (becomes : (task.step ops act).stage = .opened isBegun after) :
    task.seenBy ops act =
      { asked := before.channel.requests.newRequests after.channel.requests
        answered :=
          after.channel.requests.answers.drop before.channel.requests.answers.length
        queued := before.channel.output.newMessages after.channel.output } := by
  have notDialled : task.dialledBy act = [] := by
    unfold dialledBy
    rw [was]
  have notHeard : task.heardBy act = [] := by
    unfold heardBy
    rw [was]
  have noDecision : task.decidedBy ops act = [] := by
    unfold decidedBy decision?
    rw [was, becomes, if_pos rfl]
  have isBefore : task.relay? = some before := by
    unfold relay?
    rw [was]
  have isAfter : (task.step ops act).relay? = some after := by
    unfold relay?
    rw [becomes]
  unfold seenBy shownBy
  rw [notDialled, notHeard, noDecision, isBefore, isAfter]

variable {ops} {task : TunnelTask σ} {record : TunnelRecord σ}

theorem Accords.idle (accords : Accords task.policy task.offer record task.stage)
    {act : TunnelAct σ} (same : (task.step ops act).stage = task.stage)
    (notDialled : task.dialledBy act = []) (notHeard : task.heardBy act = []) :
    Accords task.policy task.offer (record.add (task.seenBy ops act))
      (task.step ops act).stage := by
  rw [seenBy_of_same ops same notDialled notHeard, TunnelRecord.add_nothing, same]
  exact accords

/-- A tunnel that was opened goes on as one, whatever becomes of it then. -/
theorem accords_opened {host : String} {port : UInt16} {target : String} {stream : σ}
    {wasBegun isBegun : Bool} {before after : Relay σ} {asked : List Request}
    {answered : List (Nat × Bool)} {queued : List Message} {act : TunnelAct σ}
    (fit : dialTarget task.offer.extra = .ok (host, port, target))
    (was : task.stage = .opened wasBegun before)
    (becomes : (task.step ops act).stage = .opened isBegun after)
    (requests : after.channel.requests.OfTunnel isBegun
      (asked ++ before.channel.requests.newRequests after.channel.requests)
      (answered ++
        after.channel.requests.answers.drop before.channel.requests.answers.length))
    (accounted : after.QueuedInAll
      (queued ++ before.channel.output.newMessages after.channel.output)) :
    Accords task.policy task.offer
      (TunnelRecord.add
        { dialled := [(host, port)], heard := [.connected stream], decided := [.ok ()], asked,
          answered, queued }
        (task.seenBy ops act))
      (task.step ops act).stage := by
  rw [seenBy_of_opened ops was becomes, becomes]
  exact .opened host port target stream isBegun after _ _ _ fit requests accounted

theorem Accords.step (accords : Accords task.policy task.offer record task.stage)
    (act : TunnelAct σ) :
    Accords task.policy task.offer (record.add (task.seenBy ops act))
      (task.step ops act).stage := by
  have whole := accords
  obtain ⟨policy, offer, awaited, stage⟩ := task
  cases accords with
  | offered =>
      cases act with
      | read =>
          cases fit : dialTarget offer.extra with
          | error refusal =>
              simp only [TunnelTask.step, stepStage, seenBy, dialledBy, heardBy, decidedBy, shownBy,
                decision?, relay?, fit, TunnelRecord.nothing_add]
              exact .unfit refusal fit
          | ok found =>
              obtain ⟨host, port, target⟩ := found
              simp only [TunnelTask.step, stepStage, seenBy, dialledBy, heardBy, decidedBy, shownBy,
                decision?, relay?, fit, TunnelRecord.nothing_add]
              exact .dialling host port target fit
      | answer | desert | begin | relay | request => exact whole.idle rfl rfl rfl
  | unfit | unreached =>
      cases act with
      | read | answer | desert | begin | relay | request => exact whole.idle rfl rfl rfl
  | dialling host port target fit =>
      cases act with
      | answer answer =>
          cases judged : policy.judge target answer with
          | error refusal =>
              simp only [TunnelTask.step, stepStage, seenBy, dialledBy, heardBy, decidedBy, shownBy,
                decision?, relay?, judged, TunnelRecord.add]
              exact .unreached host port target answer refusal fit judged
          | ok stream =>
              obtain rfl := policy.answer_of_judge judged
              simp only [TunnelTask.step, stepStage, seenBy, dialledBy, heardBy, decidedBy, shownBy,
                decision?, relay?, judged, TunnelRecord.add]
              exact .opened host port target stream false _ [] [] [] fit
                (Relay.requests_ofOffer offer awaited stream)
                (Relay.queuedInAll_ofOffer offer awaited stream)
      | read | desert | begin | relay | request => exact whole.idle rfl rfl rfl
  | opened host port target stream begun relay asked answered queued fit requests accounted =>
      cases act with
      | begin =>
          cases begun with
          | true => exact whole.idle rfl rfl rfl
          | false =>
              have noMessage : relay.channel.output.newMessages
                  relay.refuseRequests.channel.output = [] := Outbox.newMessages_of_queue_eq rfl
              refine accords_opened fit rfl rfl requests.detach ?_
              rw [noMessage, List.append_nil]
              exact accounted.withRequests _
      | relay act =>
          cases isTaken : begun || !act.isTurn with
          | false =>
              have same : (TunnelTask.step ops ⟨policy, offer, awaited, .opened begun relay⟩
                  (.relay act)).stage = .opened begun relay := by
                simp only [TunnelTask.step, stepStage, isTaken, Bool.false_eq_true, if_false]
              exact whole.idle same rfl rfl
          | true =>
              have becomes : (TunnelTask.step ops ⟨policy, offer, awaited, .opened begun relay⟩
                  (.relay act)).stage = .opened begun (relay.stepBy ops act) := by
                simp only [TunnelTask.step, stepStage, isTaken, if_true]
              refine accords_opened fit rfl becomes ?_ (accounted.step ops act)
              rw [relay.stepBy_requests ops act, List.drop_length, List.append_nil,
                RequestStream.newRequests_of_length_le (Nat.le_refl _), List.append_nil]
              exact requests
      | request act =>
          have becomes : (TunnelTask.step ops ⟨policy, offer, awaited, .opened begun relay⟩
              (.request act)).stage = .opened begun { relay with
                channel := { relay.channel with
                  requests := relay.channel.requests.step act } } := by
            cases begun with
            | true | false => rfl
          have noMessage : relay.channel.output.newMessages relay.channel.output = [] :=
            Outbox.newMessages_of_queue_eq rfl
          refine accords_opened fit rfl becomes (requests.step act) ?_
          rw [noMessage, List.append_nil]
          exact accounted.withRequests _
      | read | answer | desert =>
          cases begun with
          | true | false => exact whole.idle rfl rfl rfl

end TunnelTask

end SshServer
