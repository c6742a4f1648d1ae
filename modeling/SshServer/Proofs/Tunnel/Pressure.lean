import Mathlib.Algebra.Order.BigOperators.Group.List
import Mathlib.Data.List.Induction
import SshServer.Proofs.Input.Room
import SshServer.Proofs.Output.Places
import SshServer.Proofs.Output.Waiting
import SshServer.Proofs.Tunnel.Passing

/-!
Contract: neither end of a tunnel runs ahead of the other.

Owns: the line of messages to the peer with those that the tunnel queued, how far it is behind what
the target gave, and how far the target is behind the chunks that were taken for it.
Does not own: that the bytes are the right ones (`Proofs.Tunnel.Fidelity`), and the credit of the
window (`Proofs.Output.Window`).

What was read from the target and has not been taken by the transport is in the line, where it holds
credit of the window, or it is the one portion that waits for credit. Other writers share the line,
so an onlooker tells the messages of the tunnel by their places in it.
-/

namespace SshServer

/-- Whether an operation is of the tunnel or of those it is between, and not of another writer. -/
def SharedRelayAct.isTunnel {σ : Type} : SharedRelayAct σ → Bool
  | .tunnel _ => true
  | .writer _ => false

namespace Relay

variable {σ : Type}

/-! ### What an onlooker sees -/

variable (ops : TargetOps σ)

/-- The messages that an operation queues, each with whether the tunnel queued it. -/
def posts (relay : Relay σ) (act : SharedRelayAct σ) : List (Message × Bool) :=
  (Outbox.newMessages relay.channel.output (relay.stepShared ops act).channel.output).map
    (·, act.isTunnel)

/-- The messages that the transport takes by an operation. -/
def delivers (relay : Relay σ) : SharedRelayAct σ → List Message
  | .tunnel (.transport .take) => relay.channel.output.takenBy (.stream .take)
  | .writer act => relay.channel.output.takenBy act
  | .tunnel _ => []

/-- What the target gives by an operation. -/
def gives (relay : Relay σ) : SharedRelayAct σ → List ByteArray
  | .tunnel act => relay.readBy ops act
  | .writer _ => []

/-- The chunk of the peer that is taken for the target by an operation. -/
def picksBy (relay : Relay σ) : SharedRelayAct σ → List ByteArray
  | .tunnel .outward => if relay.result.isNone then relay.picks else []
  | .tunnel _ | .writer _ => []

/-- What the target takes by an operation. -/
def feeds (relay : Relay σ) : SharedRelayAct σ → List ByteArray
  | .tunnel act => relay.writtenBy ops act
  | .writer _ => []

/-- What passes at a tunnel beside other writers. -/
structure Flow where
  /-- The line of messages to the peer, those of the tunnel marked. -/
  line : List (Message × Bool)
  /-- What the transport has taken of the line. -/
  taken : List Message := []
  /-- What the target gave, read by read. -/
  read : List ByteArray := []
  /-- The chunks of the peer that were taken for the target. -/
  picked : List ByteArray := []
  /-- What the target took of them, write by write. -/
  written : List ByteArray := []

/-- What was under way before the tunnel began is in the line, too. -/
def flow (start : Relay σ) (acts : List (SharedRelayAct σ)) : Flow where
  line := start.channel.output.queue.toList.map (fun entry => (entry.1, false)) ++
    observed (stepShared ops) (posts ops) start acts
  taken := observed (stepShared ops) delivers start acts
  read := observed (stepShared ops) (gives ops) start acts
  picked := observed (stepShared ops) picksBy start acts
  written := observed (stepShared ops) (feeds ops) start acts

/-- What is seen so far, and what is seen at one operation more. -/
def Flow.grow (flow : Flow) (relay : Relay σ) (act : SharedRelayAct σ) : Flow where
  line := flow.line ++ relay.posts ops act
  taken := flow.taken ++ relay.delivers act
  read := flow.read ++ relay.gives ops act
  picked := flow.picked ++ relay.picksBy act
  written := flow.written ++ relay.feeds ops act

theorem flow_snoc (start : Relay σ) (acts : List (SharedRelayAct σ)) (act : SharedRelayAct σ) :
    start.flow ops (acts ++ [act]) =
      (start.flow ops acts).grow ops (start.runShared ops acts) act := by
  unfold flow Flow.grow
  simp only [observed_snoc, List.append_assoc]
  rfl

theorem posts_of_output {relay : Relay σ} {act : SharedRelayAct σ}
    (same : (relay.stepShared ops act).channel.output = relay.channel.output) :
    relay.posts ops act = [] := by
  rw [posts, Outbox.newMessages_of_queue_eq (by rw [same]), List.map_nil]

/-- Where an operation shows nothing, nothing more is seen. -/
theorem Flow.grow_nothing (flow : Flow) {relay : Relay σ} {act : SharedRelayAct σ}
    (same : (relay.stepShared ops act).channel.output = relay.channel.output)
    (delivers : relay.delivers act = []) (gives : relay.gives ops act = [])
    (picks : relay.picksBy act = []) (feeds : relay.feeds ops act = []) :
    flow.grow ops relay act = flow := by
  unfold grow
  rw [posts_of_output ops same, delivers, gives, picks, feeds]
  simp only [List.append_nil]

/-! ### The tally -/

/-- The tally of a tunnel: where everything is that was read, or taken for the target. -/
structure Tally (flow : Flow) (held : ByteArray) (relay : Relay σ) : Prop where
  ledger : Outbox.Ledger relay.channel.output 0
  line : relay.channel.output.attached = true →
    flow.line.map Prod.fst = flow.taken ++ relay.channel.output.queue.toList.map Prod.fst
  portions : ∀ entry ∈ flow.line, entry.2 = true → entry.1.content.size ≤ copyBuffer
  small : held.size ≤ copyBuffer
  read : (joined flow.read).size = ownBytes flow.line + held.size
  owes : relay.result = none → relay.Owes held
  fed : Fed flow.picked flow.written relay.outbound
  bounded : relay.channel.input.Bounded

section Steps

variable {ops} {flow : Flow} {held : ByteArray} {relay after : Relay σ}

/-- An operation that reaches neither the output nor the two directions. -/
theorem Tally.elsewhere (tally : Tally flow held relay)
    (output : after.channel.output = relay.channel.output) (result : after.result = relay.result)
    (inbound : after.inbound = relay.inbound) (outbound : after.outbound = relay.outbound)
    (bounded : after.channel.input.Bounded) : Tally flow held after where
  ledger := output ▸ tally.ledger
  line := by
    rw [output]
    exact tally.line
  portions := tally.portions
  small := tally.small
  read := tally.read
  owes := by
    rw [result, Owes, inbound, output]
    exact tally.owes
  fed := outbound ▸ tally.fed
  bounded := bounded

/-- A writer or the transport does something with the output, but nobody else goes on with the send
of the tunnel. -/
theorem Tally.outputAct (tally : Tally flow held relay) (act : OutputAct) (mark : Bool)
    (isOther : ∀ ticket, relay.inbound = .sending ticket → act.ticket? ≠ some ticket)
    (marked : mark = true → ∀ message ∈ Outbox.newMessages relay.channel.output
      (relay.channel.output.step act), message.content.size = 0) :
    Tally
      { flow with
        line := flow.line ++ (Outbox.newMessages relay.channel.output
          (relay.channel.output.step act)).map (·, mark)
        taken := flow.taken ++ relay.channel.output.takenBy act }
      held { relay with channel := { relay.channel with output := relay.channel.output.step act } }
      where
  ledger := tally.ledger.step act
  line := by
    intro attached
    have stays : act ≠ .stream .detach := by
      rintro rfl
      exact absurd attached Bool.false_ne_true
    have wasAttached := (relay.channel.output.step_supply stays).attached.symm.trans attached
    have moved := relay.channel.output.line_step act attached
    rw [List.append_assoc, moved, ← List.append_assoc, ← tally.line wasAttached, List.map_append,
      List.map_map]
    exact congrArg _ (List.map_id _)
  portions := by
    intro entry member own
    rcases List.mem_append.1 member with before | now
    · exact tally.portions entry before own
    · obtain ⟨message, inside, rfl⟩ := List.mem_map.1 now
      exact (marked own message inside).symm ▸ Nat.zero_le _
  small := tally.small
  read := by
    rw [ownBytes_append, ownBytes_of_empty marked]
    exact tally.read
  owes := by
    intro running
    have owes := tally.owes running
    unfold Owes at owes ⊢
    dsimp only
    split
    next ticket phase =>
      rw [phase] at owes
      exact Outbox.mem_sends_step owes (isOther ticket phase)
    next phase =>
      rw [phase] at owes
      exact owes
    next phase =>
      rw [phase] at owes
      exact owes
  fed := tally.fed
  bounded := tally.bounded

/-- A turn of the tunnel. -/
theorem Tally.turn (tally : Tally flow held relay) {read picked written : List ByteArray}
    (passes : PassesOn relay after held read)
    (fed : Fed (flow.picked ++ picked) (flow.written ++ written) after.outbound)
    (bounded : after.channel.input.Bounded) :
    ∃ rest, Tally
      { line := flow.line ++
          (Outbox.newMessages relay.channel.output after.channel.output).map (·, true)
        taken := flow.taken
        read := flow.read ++ read
        picked := flow.picked ++ picked
        written := flow.written ++ written } rest after := by
  obtain ⟨messages, rest, grown, portions, small, sum, owes⟩ := passes.passed
  rw [grown.newMessages]
  refine ⟨rest, passes.ledger, fun attached => ?_, ?_, small, ?_, owes, fed, bounded⟩
  · obtain ⟨entries, queue, rfl⟩ := grown
    rw [queue, List.map_append, List.map_append, ← List.append_assoc,
      ← tally.line (passes.attached ▸ attached), List.map_map]
    exact congrArg _ (List.map_id _)
  · intro entry member own
    rcases List.mem_append.1 member with before | now
    · exact tally.portions entry before own
    · obtain ⟨message, inside, rfl⟩ := List.mem_map.1 now
      exact portions message inside
  · have before := tally.read
    rw [ownBytes_append, ownBytes_of_own, joined_append, ByteArray.size_append]
    omega

theorem OutTurn.bounded {written : List ByteArray} (turn : OutTurn ops relay written after)
    (bounded : relay.channel.input.Bounded) : after.channel.input.Bounded := by
  cases turn with
  | idle | wrote | through => exact bounded
  | took chunk input _ taken => exact bounded.take taken
  | ended target =>
      rcases settle_cases ops { relay with target, outbound := .finished } with
        ⟨-, -, finishes⟩ | ⟨-, stays⟩
      · rw [finishes]
        exact bounded.detach
      · rw [stays]
        exact bounded
  | broke => exact bounded.detach

/-- What the direction to the peer leaves alone. -/
structure Aside (after : Relay σ) (outbound : Outbound) (input : Inlet) : Prop where
  outbound : after.outbound = outbound
  bounded : input.Bounded → after.channel.input.Bounded

theorem aside_finish (middle : Relay σ) (outcome : Except Failure (Nat × Nat)) :
    Aside (middle.finish ops outcome) middle.outbound middle.channel.input :=
  ⟨rfl, fun bounded => bounded.detach⟩

theorem aside_afterSend (middle : Relay σ) (sending : Outbox.Sending) :
    Aside (middle.afterSend ops sending) middle.outbound middle.channel.input := by
  unfold afterSend
  split
  · exact ⟨rfl, id⟩
  · exact middle.aside_finish _
  · exact ⟨rfl, id⟩

theorem aside_forward (middle : Relay σ) (content : ByteArray) :
    Aside (middle.forward ops content) middle.outbound middle.channel.input := by
  unfold forward
  split
  · split
    next output _ =>
      rcases settle_cases ops { middle with
          channel := { middle.channel with output }, inbound := .finished } with
        ⟨-, -, finishes⟩ | ⟨-, stays⟩
      · rw [finishes]
        exact aside_finish _ _
      · rw [stays]
        exact ⟨rfl, id⟩
    · exact aside_finish _ _
  · exact aside_afterSend _ _

variable (ops) (relay) in
theorem stepIn_aside :
    Aside ((relay.stepIn? ops).getD relay) relay.outbound relay.channel.input := by
  unfold stepIn?
  split
  · exact ⟨rfl, id⟩
  · split
    · exact aside_forward _ _
    · exact aside_finish _ _
    · split
      · exact ⟨rfl, id⟩
      · exact aside_finish _ _
  · split
    · exact ⟨rfl, id⟩
    · exact aside_afterSend _ _

theorem Tally.writer (tally : Tally flow held relay) (act : OutputAct) :
    Tally (flow.grow ops relay (.writer act)) held (relay.stepShared ops (.writer act)) := by
  by_cases own : act.ticket?.isSome ∧ act.ticket? = relay.ownTicket?
  · -- Nobody else goes on with the send of the tunnel, or gives it up.
    have stays : relay.stepShared ops (.writer act) = relay := if_pos own
    have noTake : relay.channel.output.takenBy act = [] := by
      obtain ⟨ticket, its⟩ := Option.isSome_iff_exists.1 own.1
      unfold Outbox.takenBy
      split
      · exact absurd its nofun
      · rfl
    have same : (relay.stepShared ops (.writer act)).channel.output = relay.channel.output := by
      rw [stays]
    rw [flow.grow_nothing ops same noTake rfl rfl rfl, stays]
    exact tally
  · have goes : relay.stepShared ops (.writer act) = { relay with
        channel := { relay.channel with output := relay.channel.output.step act } } :=
      if_neg own
    have grown : flow.grow ops relay (.writer act) = { flow with
        line := flow.line ++ (Outbox.newMessages relay.channel.output
          (relay.channel.output.step act)).map (·, false)
        taken := flow.taken ++ relay.channel.output.takenBy act } := by
      unfold Flow.grow posts
      rw [goes]
      simp only [gives, picksBy, feeds, delivers, SharedRelayAct.isTunnel, List.append_nil]
    rw [grown, goes]
    refine tally.outputAct act false (fun ticket isSending same => own ?_) nofun
    rw [same, ownTicket?, isSending]
    exact ⟨rfl, rfl⟩

theorem Tally.transport (tally : Tally flow held relay) (act : TransportAct) :
    Tally (flow.grow ops relay (.tunnel (.transport act))) held
      (relay.stepShared ops (.tunnel (.transport act))) := by
  have quiet := (relay.channel.output.step_transport_effect act).quiet
  cases act with
  | take =>
      have grown : flow.grow ops relay (.tunnel (.transport .take)) = { flow with
          line := flow.line ++ (Outbox.newMessages relay.channel.output
            (relay.channel.output.step (.stream .take))).map (·, true)
          taken := flow.taken ++ relay.channel.output.takenBy (.stream .take) } := by
        unfold Flow.grow
        simp only [gives, readBy, picksBy, feeds, writtenBy, delivers, List.append_nil]
        rfl
      rw [grown]
      refine tally.outputAct (.stream .take) true (fun _ _ => nofun) fun _ message member => ?_
      exact absurd (quiet ▸ member) List.not_mem_nil
  | leave =>
      have grown : flow.grow ops relay (.tunnel (.transport .leave)) = { flow with
          line := flow.line ++ (Outbox.newMessages relay.channel.output
            (relay.channel.output.step (.stream .detach))).map (·, true)
          taken := flow.taken ++ relay.channel.output.takenBy (.stream .detach) } := by
        unfold Flow.grow
        simp only [gives, readBy, picksBy, feeds, writtenBy, delivers, Outbox.takenBy,
          List.append_nil]
        rfl
      rw [grown]
      refine tally.outputAct (.stream .detach) true (fun _ _ => nofun) fun _ message member => ?_
      exact absurd (quiet ▸ member) List.not_mem_nil

/-- A turn of a tunnel that runs. -/
theorem Tally.turnBy (tally : Tally flow held relay) {act : RelayAct σ}
    (noTake : relay.delivers (.tunnel act) = [])
    (passes : PassesOn relay (relay.stepBy ops act) held (relay.gives ops (.tunnel act)))
    (fed : Fed (flow.picked ++ relay.picksBy (.tunnel act))
      (flow.written ++ relay.feeds ops (.tunnel act)) (relay.stepBy ops act).outbound)
    (bounded : (relay.stepBy ops act).channel.input.Bounded) :
    ∃ rest, Tally (flow.grow ops relay (.tunnel act)) rest
      (relay.stepShared ops (.tunnel act)) := by
  unfold Flow.grow
  rw [noTake, List.append_nil]
  exact tally.turn passes fed bounded

/-- A tunnel that is over takes no turn. -/
theorem Tally.over (tally : Tally flow held relay) {act : RelayAct σ}
    (stays : relay.stepBy ops act = relay) (noTake : relay.delivers (.tunnel act) = [])
    (gives : relay.gives ops (.tunnel act) = []) (picks : relay.picksBy (.tunnel act) = [])
    (feeds : relay.feeds ops (.tunnel act) = []) :
    ∃ rest, Tally (flow.grow ops relay (.tunnel act)) rest
      (relay.stepShared ops (.tunnel act)) := by
  have same : relay.stepShared ops (.tunnel act) = relay := stays
  refine ⟨held, ?_⟩
  rw [flow.grow_nothing ops (by rw [same]) noTake gives picks feeds, same]
  exact tally

theorem Tally.outward (tally : Tally flow held relay) :
    ∃ rest, Tally (flow.grow ops relay (.tunnel .outward)) rest
      (relay.stepShared ops (.tunnel .outward)) := by
  cases running : relay.result with
  | some outcome =>
      have isOver : ¬relay.result.isNone = true := by
        rw [running]
        exact Bool.false_ne_true
      exact tally.over (proceed_of_result running _) rfl rfl (if_neg isOver) (if_neg isOver)
  | none =>
      have isRunning : relay.result.isNone = true := by
        rw [running]
        rfl
      have turn := stepOut_turn ops relay
      have fed := stepOut_fed ops tally.fed
      have owes := tally.owes running
      rw [← stepBy_outward ops running] at turn fed
      apply tally.turnBy rfl (turn.passesOn tally.ledger owes tally.small) ?_
        (turn.bounded tally.bounded)
      rw [show relay.picksBy (.tunnel .outward) = relay.picks from if_pos isRunning,
        show relay.feeds ops (.tunnel .outward) = relay.writes ops from if_pos isRunning]
      exact fed

theorem Tally.inward (within : ops.ReadsWithin) (tally : Tally flow held relay) :
    ∃ rest, Tally (flow.grow ops relay (.tunnel .inward)) rest
      (relay.stepShared ops (.tunnel .inward)) := by
  cases running : relay.result with
  | some outcome =>
      have isOver : ¬relay.result.isNone = true := by
        rw [running]
        exact Bool.false_ne_true
      exact tally.over (proceed_of_result running _) rfl (if_neg isOver) rfl rfl
  | none =>
      have isRunning : relay.result.isNone = true := by
        rw [running]
        rfl
      have passes := stepIn_passesOn within tally.ledger (tally.owes running) tally.small
      have aside := stepIn_aside ops relay
      rw [← stepBy_inward ops running] at passes aside
      refine tally.turnBy rfl ?_ ?_ (aside.bounded tally.bounded)
      · rw [show relay.gives ops (.tunnel .inward) = relay.reads ops from if_pos isRunning]
        exact passes
      · rw [aside.outbound]
        have noPick : flow.picked ++ relay.picksBy (.tunnel .inward) = flow.picked :=
          List.append_nil _
        have noWrite : flow.written ++ relay.feeds ops (.tunnel .inward) = flow.written :=
          List.append_nil _
        rw [noPick, noWrite]
        exact tally.fed

theorem Tally.hangUp (tally : Tally flow held relay) :
    ∃ rest, Tally (flow.grow ops relay (.tunnel .hangUp)) rest
      (relay.stepShared ops (.tunnel .hangUp)) := by
  cases running : relay.result with
  | some outcome => exact tally.over (proceed_of_result running _) rfl rfl rfl rfl
  | none =>
      rcases stepBy_hangUp ops running with stays | ⟨-, ends⟩
      · exact tally.over stays rfl rfl rfl rfl
      · have passes : PassesOn relay (relay.finish ops (.error .peerHangup)) held [] :=
          passesOn_finish relay relay tally.ledger rfl ((tally.owes running).unpolled tally.ledger)
            (.of_queue_eq rfl) (List.forall_mem_nil _) tally.small (Nat.add_comm _ _) _
        rw [← ends] at passes
        refine tally.turnBy rfl passes ?_ ?_
        · have noPick : flow.picked ++ relay.picksBy (.tunnel .hangUp) = flow.picked :=
            List.append_nil _
          have noWrite : flow.written ++ relay.feeds ops (.tunnel .hangUp) = flow.written :=
            List.append_nil _
          rw [noPick, noWrite, ends]
          exact tally.fed
        · rw [ends]
          exact tally.bounded.detach

/-- Whoever acts, and in whatever order, the tally is kept. -/
theorem Tally.step (within : ops.ReadsWithin) (tally : Tally flow held relay)
    (act : SharedRelayAct σ) :
    ∃ rest, Tally (flow.grow ops relay act) rest (relay.stepShared ops act) := by
  cases act with
  | writer act => exact ⟨held, tally.writer act⟩
  | tunnel act =>
      cases act with
      | outward => exact tally.outward
      | inward => exact tally.inward within
      | hangUp => exact tally.hangUp
      | transport act => exact ⟨held, tally.transport act⟩
      | peer act =>
          refine ⟨held, ?_⟩
          rw [flow.grow_nothing ops rfl rfl rfl rfl rfl]
          exact tally.elsewhere rfl rfl rfl rfl (tally.bounded.stepOfSender act)
      | target change =>
          refine ⟨held, ?_⟩
          rw [flow.grow_nothing ops rfl rfl rfl rfl rfl]
          exact tally.elsewhere rfl rfl rfl rfl tally.bounded

theorem tally_run (within : ops.ReadsWithin) {start : Relay σ}
    (initial : Tally (start.flow ops []) ByteArray.empty start) (acts : List (SharedRelayAct σ)) :
    ∃ rest, Tally (start.flow ops acts) rest (start.runShared ops acts) := by
  induction acts using List.reverseRecOn with
  | nil => exact ⟨_, initial⟩
  | append_singleton acts act inductionHypothesis =>
      obtain ⟨rest, tally⟩ := inductionHypothesis
      have next := tally.step within act
      rw [← flow_snoc] at next
      rw [show start.runShared ops (acts ++ [act]) =
        (start.runShared ops acts).stepShared ops act from runFrom_snoc _ start acts act]
      exact next

/-- What the tunnel has in the line fits into the window, whoever else is in it. -/
theorem Tally.ownBytes_le (tally : Tally flow held relay)
    (attached : relay.channel.output.attached = true) :
    ownBytes (flow.line.drop flow.taken.length) ≤ outputWindow := by
  have waiting : (flow.line.drop flow.taken.length).map Prod.fst =
      relay.channel.output.queue.toList.map Prod.fst := by
    rw [List.map_drop, tally.line attached, List.drop_left]
  have eachCosts : ∀ entry ∈ flow.line.drop flow.taken.length,
      (if entry.2 then entry.1.content.size else 0) ≤ entry.1.cost := by
    intro entry member
    split
    next own =>
      have portion := tally.portions entry (List.mem_of_mem_drop member) own
      have small : copyBuffer ≤ outputWindow := by decide
      rw [Message.cost]
      omega
    · exact Nat.zero_le _
  have costs : relay.channel.output.queue.toList.map (fun entry => entry.1.cost) =
      relay.channel.output.queue.toList.map Prod.snd :=
    List.map_congr_left fun entry member => (tally.ledger.costs entry member).symm
  have bounded := tally.ledger.bounded
  calc ownBytes (flow.line.drop flow.taken.length)
      ≤ ((flow.line.drop flow.taken.length).map fun entry => entry.1.cost).sum :=
        List.sum_le_sum eachCosts
    _ = (((flow.line.drop flow.taken.length).map Prod.fst).map Message.cost).sum := by
        rw [List.map_map]
        rfl
    _ = relay.channel.output.stored := by
        rw [waiting, List.map_map, Outbox.stored, ← costs]
        rfl
    _ ≤ outputWindow := by omega

end Steps

/-- While a portion waits for credit, whatever the target would give makes no difference. -/
theorem stepShared_of_sending {relay : Relay σ} {ticket : Nat}
    (waits : relay.ownTicket? = some ticket) (act : SharedRelayAct σ)
    (read : Nat → σ → σ × StreamAnswer ByteArray) :
    relay.stepShared { ops with read } act = relay.stepShared ops act ∧
      relay.gives ops act = [] := by
  have phase : relay.inbound = .sending ticket := by
    unfold ownTicket? at waits
    split at waits
    next other isSending =>
      obtain rfl := Option.some.inj waits
      exact isSending
    · exact absurd waits.symm (Option.some_ne_none _)
    · exact absurd waits.symm (Option.some_ne_none _)
  have noRead : relay.reads ops = [] := by simp only [reads, phase]
  cases act with
  | writer act => exact ⟨rfl, rfl⟩
  | tunnel act =>
      cases act with
      | inward =>
          have same : relay.stepIn? { ops with read } = relay.stepIn? ops := by
            unfold stepIn?
            rw [phase]
            rfl
          refine ⟨congrArg relay.proceed same, ?_⟩
          show (if relay.result.isNone then relay.reads ops else []) = []
          rw [noRead, ite_self]
      | outward | hangUp | peer | transport | target => exact ⟨rfl, rfl⟩

/-- Only a tunnel that runs and waits for nothing is given anything. -/
theorem reading_of_gives {relay : Relay σ} {act : SharedRelayAct σ}
    (given : relay.gives ops act ≠ []) : relay.result = none ∧ relay.inbound = .reading := by
  unfold gives readBy at given
  split at given
  · split at given
    · split at given
      next running =>
        refine ⟨Option.isNone_iff_eq_none.1 running, ?_⟩
        unfold reads at given
        split at given
        next reading => exact reading
        · exact absurd rfl given
      · exact absurd rfl given
    · exact absurd rfl given
  · exact absurd rfl given

theorem tally_at_start {channel : Channel} (target : σ)
    (ledger : Outbox.Ledger channel.output 0) (bounded : channel.input.Bounded) :
    let start : Relay σ := { channel, target }
    Tally (start.flow ops []) ByteArray.empty start := by
  intro start
  have line : (start.flow ops []).line =
      channel.output.queue.toList.map fun entry => (entry.1, false) := List.append_nil _
  refine ⟨ledger, fun _ => ?_, ?_, Nat.zero_le _, ?_, fun _ => rfl, rfl, bounded⟩
  · rw [line, List.map_map]
    rfl
  · intro entry member own
    rw [line] at member
    obtain ⟨_, -, rfl⟩ := List.mem_map.1 member
    exact absurd own Bool.false_ne_true
  · have others := ownBytes_of_others (channel.output.queue.toList.map Prod.fst)
    rw [List.map_map] at others
    rw [line]
    exact (Nat.add_zero _).symm ▸ others.symm

/-- Whatever was written to a channel before a tunnel began on it, whatever had arrived by then, and
whoever writes to it beside the tunnel: while the transport is there, what was read from the target
is ahead of what the transport has taken of it by no more than the window and one portion. Nothing
is read while a portion waits for credit, and whatever is read finds all that was read before in the
line. The input holds no more chunks than it has room for, and at most one of those that were taken
from it has not been written to the target in full. -/
theorem backpressure (within : ops.ReadsWithin) (offer : ChannelOffer) (awaited : Bool)
    (requests : RequestStream) (arrivals : List InletAct) (before : List OutputAct) (target : σ)
    (acts : List (SharedRelayAct σ)) :
    let accepted := Channel.ofOffer offer awaited
    let channel := { accepted with
      requests
      input := runFrom Inlet.step accepted.input arrivals
      output := accepted.output.run before }
    let start : Relay σ := { channel, target }
    let relay := start.runShared ops acts
    let flow := start.flow ops acts
    (relay.channel.output.attached = true →
        flow.line.map Prod.fst = flow.taken ++ relay.channel.output.queue.toList.map Prod.fst ∧
          (joined flow.read).size ≤
            ownBytes (flow.line.take flow.taken.length) + outputWindow + copyBuffer) ∧
      (∀ ticket, relay.result = none → relay.ownTicket? = some ticket →
        (∃ held, (ticket, .data held) ∈ relay.channel.output.sends) ∧
          ∀ act read, relay.stepShared { ops with read } act = relay.stepShared ops act ∧
            relay.gives ops act = []) ∧
      (∀ act, relay.gives ops act ≠ [] → (joined flow.read).size = ownBytes flow.line) ∧
      relay.channel.input.box.items.toList.length ≤ inputBuffer ∧
      OneBehind flow.picked flow.written := by
  intro accepted channel start relay flow
  have ledger : Outbox.Ledger channel.output 0 := (Outbox.Ledger.ofOffer offer awaited).run before
  have bounded : channel.input.Bounded := (Inlet.Bounded.ofOffer offer awaited).run arrivals
  obtain ⟨held, tally⟩ := tally_run within (tally_at_start ops target ledger bounded) acts
  refine ⟨fun attached => ⟨tally.line attached, ?_⟩, fun ticket running waits => ⟨?_, ?_⟩,
    fun act given => ?_, tally.bounded.chunks, tally.fed.oneBehind⟩
  · have inLine : ownBytes (flow.line.drop flow.taken.length) ≤ outputWindow :=
      tally.ownBytes_le attached
    have portion := tally.small
    have whole : (joined flow.read).size = ownBytes flow.line + held.size := tally.read
    rw [← List.take_append_drop flow.taken.length flow.line, ownBytes_append] at whole
    omega
  · have owes := tally.owes running
    unfold ownTicket? at waits
    split at waits
    next other isSending =>
      obtain rfl := Option.some.inj waits
      rw [Owes, isSending] at owes
      exact ⟨held, owes⟩
    · exact absurd waits.symm (Option.some_ne_none _)
    · exact absurd waits.symm (Option.some_ne_none _)
  · exact stepShared_of_sending ops waits
  · obtain ⟨running, reading⟩ := reading_of_gives ops given
    have owes := tally.owes running
    rw [Owes, reading] at owes
    have whole := tally.read
    rw [owes] at whole
    exact whole

/-! ### A window that is full -/

/-- A target with one byte to be read. -/
def oneByte : PipePair :=
  ⟨{ capacity := 1 }, { capacity := 1, content := ⟨#[97]⟩ }⟩

theorem read_oneByte :
    PipePair.near.read copyBuffer oneByte = (.ofCapacity 1, .ready ⟨#[97]⟩) := by
  have whole : oneByte.inward.read copyBuffer = ({ capacity := 1 }, .ready ⟨#[97]⟩) :=
    Pipe.read_whole (by decide) (by decide)
  show ({ oneByte with inward := (oneByte.inward.read copyBuffer).1 },
    (oneByte.inward.read copyBuffer).2) = _
  rw [whole]
  rfl

theorem send_when_full {content : ByteArray} (fills : (Message.data content).cost = outputWindow) :
    ∃ waiting, waiting.attached = true ∧
      ((Channel.ofOffer ⟨"direct-tcpip", .empty⟩ true).output.run
        [.stream (.send none content)]).send (.data ⟨#[97]⟩) = (waiting, .waiting 0) := by
  have window : outputWindow ≠ 0 := by decide
  have byteCost : (Message.data ⟨#[97]⟩).cost = 1 := by decide
  refine ⟨{
    queue := ⟨[], [(.data content, outputWindow)]⟩
    credit := ⟨0, [⟨0, 1, 0⟩], [], false⟩
    nextTicket := 1
    sends := [(0, .data ⟨#[97]⟩)] }, rfl, ?_⟩
  simp [Outbox.run, runFrom, Outbox.step, Outbox.perform, Outbox.performStream, Outbox.send,
    Outbox.push, Credit.acquire, Channel.ofOffer, Message.ofStream, Fifo.push, Fifo.empty, fills,
    window, byteCost]

/-- A byte that finds the window full is read and waits. -/
theorem run_when_full {channel : Channel} {waiting : Outbox}
    (full : channel.output.send (.data ⟨#[97]⟩) = (waiting, .waiting 0)) :
    ({ channel, target := oneByte } : Relay PipePair).runShared PipePair.near [.tunnel .inward] =
      { channel := { channel with output := waiting }, target := .ofCapacity 1,
        inbound := .sending 0, received := 1 } := by
  show ({ channel, target := oneByte } : Relay PipePair).stepBy PipePair.near .inward = _
  rw [stepBy_inward PipePair.near rfl]
  simp only [stepIn?, read_oneByte, forward, full]
  rfl

theorem gives_oneByte (channel : Channel) :
    ({ channel, target := oneByte } : Relay PipePair).gives PipePair.near (.tunnel .inward) =
      [⟨#[97]⟩] := by
  simp only [gives, readBy, reads, read_oneByte, Option.isNone_none, if_true]

/-- Somebody has filled the window. The first byte of the target is read, and waits. -/
theorem backpressure_when_full :
    let accepted := Channel.ofOffer ⟨"direct-tcpip", .empty⟩ true
    let channel := { accepted with
      requests := {}
      input := runFrom Inlet.step accepted.input []
      output := accepted.output.run [.stream (.send none Outbox.windowful)] }
    let start : Relay PipePair := { channel, target := oneByte }
    let relay := start.runShared PipePair.near [.tunnel .inward]
    let flow := start.flow PipePair.near [.tunnel .inward]
    PipePair.near.ReadsWithin ∧
      (start.gives PipePair.near (.tunnel .inward) ≠ [] ∧
        (joined (start.flow PipePair.near []).read).size =
          ownBytes (start.flow PipePair.near []).line) ∧
      relay.channel.output.attached = true ∧
      flow.line.map Prod.fst = flow.taken ++ relay.channel.output.queue.toList.map Prod.fst ∧
      (joined flow.read).size ≤
        ownBytes (flow.line.take flow.taken.length) + outputWindow + copyBuffer ∧
      relay.result = none ∧ relay.ownTicket? = some 0 ∧
      ∃ held, (0, .data held) ∈ relay.channel.output.sends := by
  -- Nothing but the cost of the content matters, so that nothing evaluates it.
  have fills := Outbox.cost_windowful
  revert fills
  generalize Outbox.windowful = content
  intro fills accepted channel start relay flow
  obtain ⟨waiting, attached, full⟩ := send_when_full fills
  have turn : relay =
      { channel := { channel with output := waiting }, target := .ofCapacity 1,
        inbound := .sending 0, received := 1 } := @run_when_full channel waiting full
  have isAttached : relay.channel.output.attached = true := by
    rw [turn]
    exact attached
  have running : relay.result = none := by rw [turn]
  have waits : relay.ownTicket? = some 0 := by
    rw [turn]
    rfl
  have given : start.gives PipePair.near (.tunnel .inward) ≠ [] := by
    rw [gives_oneByte]
    exact List.cons_ne_nil _ _
  have pressed := backpressure PipePair.near PipePair.near_readsWithin ⟨"direct-tcpip", .empty⟩ true
    {} [] [.stream (.send none content)] oneByte
  have level := (pressed []).2.2.1 (.tunnel .inward) given
  obtain ⟨behind, stalls, -, -, -⟩ := pressed [.tunnel .inward]
  -- The states stay as runs, so that nothing evaluates them.
  have isRun : relay = ({ channel, target := oneByte } : Relay PipePair).runShared PipePair.near
      [.tunnel .inward] := rfl
  have isFlow : flow = ({ channel, target := oneByte } : Relay PipePair).flow PipePair.near
      [.tunnel .inward] := rfl
  rw [← isRun, ← isFlow] at behind
  rw [← isRun] at stalls
  exact ⟨PipePair.near_readsWithin, ⟨given, level⟩, isAttached, (behind isAttached).1,
    (behind isAttached).2, running, waits, (stalls 0 running waits).1⟩

end Relay

end SshServer
