import SshServer.Proofs.Output.Supply
import SshServer.Proofs.Tunnel.Run

/-!
Contract: a tunnel whose peer goes away.

Owns: runs of a tunnel whose channel has other writers beside it; that the direction to the peer ends
the tunnel with the first turn that it takes after the departure; and what alone can keep a tunnel
going that has lost its peer.
Does not own: what passes at a tunnel (`Proofs.Tunnel.Fidelity`), and what the departure does to the
writers of a channel (`Proofs.Output.Supply`).

Only the direction to the peer looks for the departure. Where it has ended before, because the
target has, nobody is left to notice, and the other direction goes on for as long as the target
makes it wait.
-/

namespace SshServer

/-! ### Tunnels beside other writers -/

/-- An operation of the tunnel, of those it is between, or of somebody else who writes to the
channel. -/
inductive SharedRelayAct (σ : Type) where
  | tunnel (act : RelayAct σ)
  | writer (act : OutputAct)

namespace Relay

variable {σ : Type} (ops : TargetOps σ)

/-- The send of its own that the tunnel waits for. -/
def ownTicket? (relay : Relay σ) : Option Nat :=
  match relay.inbound with
  | .sending ticket => some ticket
  | .reading | .finished => none

/-- The send that the tunnel waits for is known to nobody else, who can neither go on with it nor
give it up. -/
def stepShared (relay : Relay σ) : SharedRelayAct σ → Relay σ
  | .tunnel act => relay.stepBy ops act
  | .writer act =>
    if act.ticket?.isSome ∧ act.ticket? = relay.ownTicket? then relay
    else
      let channel := relay.channel
      { relay with channel := { channel with output := channel.output.step act } }

def runShared (relay : Relay σ) (acts : List (SharedRelayAct σ)) : Relay σ :=
  runFrom (stepShared ops) relay acts

/-- What holds of a tunnel whoever else writes to its channel: without a transport there is no
credit, the send it waits for does wait, and it does not outlive its two directions. -/
structure Sound (relay : Relay σ) : Prop where
  supply : relay.channel.output.SupplyEnds
  awaits : relay.result = none →
    ∀ ticket, relay.inbound = .sending ticket → relay.channel.output.Awaits ticket
  unfinished : relay.result = none → ¬(relay.outbound = .finished ∧ relay.inbound = .finished)

theorem finish_supply (relay : Relay σ) (outcome : Except Failure (Nat × Nat)) :
    relay.channel.output.SameSupply (relay.finish ops outcome).channel.output := by
  have closes := relay.channel.output.close_supply
  have output : (relay.finish ops outcome).channel.output =
      (relay.withoutSend relay.channel.output.close.1).dropWriter := rfl
  rw [output]
  unfold withoutSend
  split
  · exact ⟨closes.attached, closes.closed⟩
  · exact ⟨closes.attached, closes.closed⟩

variable {ops}

theorem Sound.changeTarget {relay : Relay σ} (sound : relay.Sound) (target : σ) :
    ({ relay with target } : Relay σ).Sound :=
  ⟨sound.supply, sound.awaits, sound.unfinished⟩

theorem sound_finish {relay : Relay σ} (supply : relay.channel.output.SupplyEnds)
    (outcome : Except Failure (Nat × Nat)) : (relay.finish ops outcome).Sound where
  supply := (relay.finish_supply ops outcome).supplyEnds supply
  awaits := nofun
  unfinished := nofun

theorem sound_settle {relay : Relay σ} (supply : relay.channel.output.SupplyEnds)
    (awaits : ∀ ticket, relay.inbound = .sending ticket → relay.channel.output.Awaits ticket) :
    (relay.settle ops).Sound := by
  rcases relay.settle_cases ops with ⟨-, -, finishes⟩ | ⟨unfinished, stays⟩
  · rw [finishes]
    exact sound_finish supply _
  · rw [stays]
    exact ⟨supply, fun _ => awaits, fun _ => unfinished⟩

theorem sound_afterSend {relay : Relay σ} {sending : Outbox.Sending}
    (supply : relay.channel.output.SupplyEnds)
    (awaits : ∀ ticket, sending = .waiting ticket → relay.channel.output.Awaits ticket) :
    (relay.afterSend ops sending).Sound := by
  unfold afterSend
  split
  · exact ⟨supply, fun _ => nofun, fun _ both => nomatch both.2⟩
  · exact sound_finish supply _
  next ticket =>
    refine ⟨supply, fun _ other isSending => ?_, fun _ both => nomatch both.2⟩
    obtain rfl := Inbound.sending.inj isSending
    exact awaits _ rfl

theorem OutTurn.sound {before after : Relay σ} {written : List ByteArray}
    (turn : OutTurn ops before written after) (sound : before.Sound)
    (running : before.result = none) : after.Sound := by
  cases turn with
  | idle => exact sound
  | took | wrote | through => exact ⟨sound.supply, sound.awaits, fun _ both => nomatch both.1⟩
  | ended => exact sound_settle sound.supply (sound.awaits running)
  | broke written target => exact sound_finish (sound.changeTarget target).supply _

theorem sound_forward {relay : Relay σ} (supply : relay.channel.output.SupplyEnds)
    (content : ByteArray) : (relay.forward ops content).Sound := by
  unfold forward
  split
  · have eofSupply := (relay.channel.output.push_supply .eof 0).supplyEnds supply
    split
    next output queued =>
      rw [show relay.channel.output.push .eof 0 = (output, .ok ()) from queued] at eofSupply
      exact sound_settle eofSupply fun _ => nofun
    next output cause failed =>
      rw [show relay.channel.output.push .eof 0 = (output, .error cause) from failed] at eofSupply
      exact sound_finish eofSupply _
  · exact sound_afterSend ((relay.channel.output.send_supply _).supplyEnds supply)
      fun _ => Outbox.awaits_of_send

theorem Sound.stepIn {relay : Relay σ} (sound : relay.Sound) :
    ((relay.stepIn? ops).getD relay).Sound := by
  unfold stepIn?
  split
  · exact sound
  · split
    next target content _ => exact sound_forward (sound.changeTarget target).supply _
    next target cause _ => exact sound_finish (sound.changeTarget target).supply _
    · split
      · exact sound
      · exact sound_finish sound.supply _
  next ticket phase =>
    have supply := (relay.channel.output.resume_supply ticket).supplyEnds sound.supply
    split
    · exact sound
    next output sending notWaiting resumed =>
      rw [resumed] at supply
      exact sound_afterSend supply fun other waits => absurd waits (notWaiting other)

/-- Whoever acts, and in whatever order, the tunnel stays sound. -/
theorem Sound.stepShared {relay : Relay σ} (sound : relay.Sound) (act : SharedRelayAct σ) :
    (relay.stepShared ops act).Sound := by
  cases act with
  | tunnel act =>
      cases act with
      | outward =>
          show (relay.proceed (relay.stepOut? ops)).Sound
          unfold proceed
          split
          · exact sound
          next running => exact (stepOut_turn ops relay).sound sound running
      | inward =>
          show (relay.proceed (relay.stepIn? ops)).Sound
          unfold proceed
          split
          · exact sound
          · exact sound.stepIn
      | hangUp =>
          show (relay.proceed (relay.hangUp? ops)).Sound
          unfold proceed hangUp?
          split
          · exact sound
          · split
            · exact sound_finish sound.supply _
            · exact sound
      | peer act => exact ⟨sound.supply, sound.awaits, sound.unfinished⟩
      | transport act =>
          refine ⟨?_, fun running ticket isSending => ?_, sound.unfinished⟩
          · cases act with
            | take => exact sound.supply.step (.stream .take)
            | leave => exact sound.supply.step (.stream .detach)
          · have awaits := sound.awaits running ticket isSending
            exact awaits.of_eq (relay.channel.output.step_transport_effect act).sends
      | target change => exact sound.changeTarget (change relay.target)
  | writer act =>
      unfold Relay.stepShared
      dsimp only
      split
      · exact sound
      next isOther =>
        refine ⟨sound.supply.step act, fun running ticket isSending => ?_, sound.unfinished⟩
        refine (sound.awaits running ticket isSending).step fun same => isOther ?_
        have own : relay.ownTicket? = some ticket := by
          have phase : relay.inbound = .sending ticket := isSending
          simp only [ownTicket?, phase]
        rw [same, own]
        exact ⟨rfl, rfl⟩

theorem Sound.runShared {relay : Relay σ} (sound : relay.Sound) (acts : List (SharedRelayAct σ)) :
    (relay.runShared ops acts).Sound :=
  runFrom_induction (Relay.stepShared ops) Sound (fun _ act kept => kept.stepShared act) sound acts

/-- A tunnel may begin on a channel that was written to before, with sends that wait. -/
theorem sound_at_start {channel : Channel} (target : σ) (supply : channel.output.SupplyEnds) :
    ({ channel, target } : Relay σ).Sound :=
  ⟨supply, fun _ _ => nofun, fun _ both => nomatch both.1⟩

/-! ### The departure of the peer -/

variable (ops) in
theorem forward_of_left (relay : Relay σ) (isLeft : relay.channel.output.attached = false)
    (supply : relay.channel.output.SupplyEnds) (content : ByteArray) :
    ∃ cause, (relay.forward ops content).result = some (.error cause) := by
  unfold forward
  split
  · obtain ⟨cause, refused⟩ := Outbox.push_of_left isLeft .eof 0
    have isEof : relay.channel.output.eof = ((relay.channel.output.push .eof 0).1, .error cause) :=
      Prod.ext rfl refused
    rw [isEof]
    exact ⟨cause, rfl⟩
  · obtain ⟨cause, refused⟩ := Outbox.send_of_left isLeft supply (.data content)
    dsimp only
    rw [refused]
    exact ⟨cause, rfl⟩

variable (ops) in
/-- Once the transport is gone, the direction to the peer ends the tunnel with its next turn,
whether it would read or waits for credit. -/
theorem Sound.stepIn_of_left {relay : Relay σ} (sound : relay.Sound)
    (running : relay.result = none) (isLeft : relay.channel.output.attached = false)
    (notFinished : relay.inbound ≠ .finished) :
    ∃ after cause, relay.stepIn? ops = some after ∧ after.result = some (.error cause) := by
  unfold stepIn?
  split
  next phase => exact absurd phase notFinished
  · split
    next target content _ =>
      obtain ⟨cause, failed⟩ :=
        forward_of_left ops { relay with target } isLeft sound.supply content
      exact ⟨_, cause, rfl, failed⟩
    · exact ⟨_, _, rfl, rfl⟩
    · rw [isLeft]
      exact ⟨_, _, rfl, rfl⟩
  next ticket phase =>
    have refused := Outbox.resume_of_left isLeft sound.supply (sound.awaits running ticket phase)
    have resumed : relay.channel.output.resume ticket =
        ((relay.channel.output.resume ticket).1, .done (.error .peerHangup)) :=
      Prod.ext rfl refused
    rw [resumed]
    exact ⟨_, _, rfl, rfl⟩

variable (ops) in
/-- What keeps the direction to the target from ending although nobody can send: the target takes
neither the bytes it is given nor its shutdown. -/
inductive Stalls (relay : Relay σ) : Prop where
  | write (chunk : ByteArray) (done : Nat) (target : σ)
      (writing : relay.outbound = .writing chunk done) (more : done < chunk.size)
      (pending : ops.write chunk done relay.target = (target, .pending))
  | shutdown (target : σ) (receiving : relay.outbound = .receiving)
      (nothing : relay.channel.input.take? = none)
      (isEnded : relay.channel.input.box.ended = true)
      (pending : ops.shutdown relay.target = (target, .pending))

theorem stalls_of_stepOut {relay : Relay σ} (noSenders : relay.channel.input.box.senders = 0)
    (stuck : relay.stepOut? ops = none) : relay.outbound = .finished ∨ relay.Stalls ops := by
  unfold stepOut? at stuck
  split at stuck
  next phase => exact .inl phase
  next phase =>
    right
    split at stuck
    · exact absurd stuck (Option.some_ne_none _)
    next nothing =>
      split at stuck
      next isEnded =>
        split at stuck
        next target pending => exact .shutdown target phase nothing isEnded pending
        · exact absurd stuck (Option.some_ne_none _)
        · exact absurd stuck (Option.some_ne_none _)
      next notEnded => exact absurd noSenders (Inlet.senders_of_not_ended nothing notEnded)
  next chunk done phase =>
    right
    split at stuck
    next more =>
      split at stuck
      next target pending => exact .write chunk done target phase more pending
      · exact absurd stuck (Option.some_ne_none _)
      · split at stuck
        · exact absurd stuck (Option.some_ne_none _)
        · exact absurd stuck (Option.some_ne_none _)
    · exact absurd stuck (Option.some_ne_none _)

theorem Stalls.stepOut {relay : Relay σ} (stalls : relay.Stalls ops) :
    relay.stepOut? ops = none := by
  cases stalls with
  | write chunk done target writing more pending =>
      simp only [stepOut?, writing, more, if_true, pending]
  | shutdown target receiving nothing isEnded pending =>
      simp only [stepOut?, receiving, nothing, isEnded, if_true, pending]

/-- A tunnel that runs and makes no step is one where both directions wait or have ended. -/
theorem bothWait_of_step {relay : Relay σ} (running : relay.result = none)
    (settled : relay.step? ops = none) :
    relay.stepOut? ops = none ∧ relay.stepIn? ops = none := by
  unfold step? at settled
  rw [running] at settled
  cases out : relay.stepOut? ops with
  | some other =>
      rw [out] at settled
      exact absurd settled (Option.some_ne_none _)
  | none =>
      rw [out] at settled
      exact ⟨rfl, settled⟩

/-- The transport is gone from the channel: it takes no output, and nobody can send. -/
def Deserted (relay : Relay σ) : Prop :=
  relay.channel.output.attached = false ∧ relay.channel.input.box.senders = 0

variable (ops) in
/-- A tunnel without a peer that nobody ends: its target has ended, and takes nothing more. -/
structure Stranded (relay : Relay σ) : Prop where
  running : relay.result = none
  finished : relay.inbound = .finished
  noSenders : relay.channel.input.box.senders = 0
  stalls : relay.Stalls ops

/-- Neither the two directions nor anybody at the channel gets a stranded tunnel going. -/
theorem Stranded.step {relay : Relay σ} (stranded : relay.Stranded ops) {act : SharedRelayAct σ}
    (notTarget : ∀ change, act ≠ .tunnel (.target change)) :
    (relay.stepShared ops act).Stranded ops := by
  cases act with
  | tunnel act =>
      cases act with
      | outward =>
          have stays : relay.stepShared ops (.tunnel .outward) = relay := by
            show relay.stepBy ops .outward = relay
            rw [stepBy_outward ops stranded.running, stranded.stalls.stepOut]
            rfl
          rw [stays]
          exact stranded
      | inward =>
          have nothing : relay.stepIn? ops = none := by
            simp only [stepIn?, stranded.finished]
          have stays : relay.stepShared ops (.tunnel .inward) = relay := by
            show relay.stepBy ops .inward = relay
            rw [stepBy_inward ops stranded.running, nothing]
            rfl
          rw [stays]
          exact stranded
      | hangUp =>
          have stays : relay.stepShared ops (.tunnel .hangUp) = relay := by
            show relay.proceed (relay.hangUp? ops) = relay
            simp only [proceed, hangUp?, stranded.running, stranded.finished, reduceCtorEq,
              false_and, if_false, Option.getD_none]
          rw [stays]
          exact stranded
      | peer act =>
          have stays : relay.channel.input.stepOfSender act = relay.channel.input :=
            (relay.channel.input.step_sender_effect act).noSenders stranded.noSenders
          have same : relay.stepShared ops (.tunnel (.peer act)) = relay := by
            show ({ relay with channel :=
              { relay.channel with input := relay.channel.input.stepOfSender act } } : Relay σ) =
                relay
            rw [stays]
          rw [same]
          exact stranded
      | transport act =>
          refine ⟨stranded.running, stranded.finished, stranded.noSenders, ?_⟩
          cases stranded.stalls with
          | write chunk done target writing more pending =>
              exact .write chunk done target writing more pending
          | shutdown target receiving nothing isEnded pending =>
              exact .shutdown target receiving nothing isEnded pending
      | target change => exact absurd rfl (notTarget change)
  | writer act =>
      unfold stepShared
      dsimp only
      split
      · exact stranded
      · refine ⟨stranded.running, stranded.finished, stranded.noSenders, ?_⟩
        cases stranded.stalls with
        | write chunk done target writing more pending =>
            exact .write chunk done target writing more pending
        | shutdown target receiving nothing isEnded pending =>
            exact .shutdown target receiving nothing isEnded pending

theorem Stranded.run {relay : Relay σ} (stranded : relay.Stranded ops)
    (acts : List (SharedRelayAct σ))
    (noTarget : ∀ act ∈ acts, ∀ change, act ≠ .tunnel (.target change)) :
    (relay.runShared ops acts).Stranded ops := by
  induction acts generalizing relay with
  | nil => exact stranded
  | cons act rest inductionHypothesis =>
      have next := stranded.step (noTarget act List.mem_cons_self)
      exact inductionHypothesis next fun other member =>
        noTarget other (List.mem_cons_of_mem _ member)

variable (ops)

/-- Whatever was written to a channel before a tunnel began on it, whoever writes to it beside the
tunnel, and whatever has happened: once the transport is gone, the direction to the peer ends the
tunnel with its next turn, unless it has ended already. A tunnel that has lost all of its channel
and makes no step is therefore over, but for one whose target has ended before. Such a tunnel goes
on for as long as the target takes neither the bytes that are left nor its shutdown, and nothing but
the target can end it. -/
theorem peer_departure_ends (offer : ChannelOffer) (awaited : Bool) (input : Inlet)
    (requests : RequestStream) (before : List OutputAct) (target : σ)
    (acts : List (SharedRelayAct σ)) :
    let accepted := Channel.ofOffer offer awaited
    let channel := { accepted with input, requests, output := accepted.output.run before }
    let relay := ({ channel, target } : Relay σ).runShared ops acts
    (relay.result = none → relay.channel.output.attached = false → relay.inbound ≠ .finished →
        ∃ cause, (relay.stepBy ops .inward).result = some (.error cause)) ∧
      (relay.step? ops = none → relay.Deserted →
        relay.result ≠ none ∨
          relay.inbound = .finished ∧ relay.Stalls ops ∧
            ∀ later, (∀ act ∈ later, ∀ change, act ≠ .tunnel (.target change)) →
              (relay.runShared ops later).result = none) := by
  intro accepted channel relay
  have sound : relay.Sound :=
    (sound_at_start target ((Outbox.SupplyEnds.ofOffer offer awaited).run before)).runShared acts
  constructor
  · intro running isLeft notFinished
    obtain ⟨after, cause, turn, failed⟩ :=
      sound.stepIn_of_left ops running isLeft notFinished
    refine ⟨cause, ?_⟩
    rw [stepBy_inward ops running, turn]
    exact failed
  · rintro settled ⟨isLeft, noSenders⟩
    by_cases running : relay.result = none
    · right
      have bothWait := bothWait_of_step running settled
      have finished : relay.inbound = .finished := Decidable.byContradiction fun notFinished => by
        obtain ⟨_, _, turn, _⟩ := sound.stepIn_of_left ops running isLeft notFinished
        exact Option.some_ne_none _ (turn.symm.trans bothWait.2)
      have stalls := (stalls_of_stepOut noSenders bothWait.1).resolve_left
        fun outEnded => sound.unfinished running ⟨outEnded, finished⟩
      have stranded : relay.Stranded ops := ⟨running, finished, noSenders, stalls⟩
      exact ⟨finished, stalls, fun later noTarget => (stranded.run later noTarget).running⟩
    · exact .inl running

/-- A tunnel between two that are still there, and one whose far end has ended while three bytes go
into a pipe that holds two. Both lose their peer: the one ends, the other stays. -/
theorem peer_departure_ends_through_pipes :
    let offer : ChannelOffer := ⟨"direct-tcpip", .empty⟩
    let accepted := Channel.ofOffer offer true
    let before : List OutputAct := [.stream (.trySend none ⟨#[100]⟩)]
    let channel :=
      { accepted with input := {}, requests := {}, output := accepted.output.run before }
    let start : Relay PipePair := { channel, target := .ofCapacity 2 }
    let leaves : List (SharedRelayAct PipePair) :=
      [.tunnel (.peer .dropSender), .writer (.stream .eof), .tunnel (.transport .leave)]
    let notices := leaves ++ [.tunnel .inward]
    let halfOpen : List (SharedRelayAct PipePair) :=
      [.tunnel (.target fun pair => { pair with inward := pair.inward.close }), .tunnel .inward,
        .tunnel (.peer (.offer 0 ⟨#[97, 98, 99]⟩)), .tunnel .outward, .tunnel .outward] ++ leaves
    let later : List (SharedRelayAct PipePair) := [.tunnel .outward, .tunnel .inward]
    let left := start.runShared PipePair.near leaves
    let ended := start.runShared PipePair.near notices
    let stranded := start.runShared PipePair.near halfOpen
    (left.result = none ∧ left.channel.output.attached = false ∧ left.inbound ≠ .finished ∧
        ∃ cause, (left.stepBy PipePair.near .inward).result = some (.error cause)) ∧
      (ended.step? PipePair.near = none ∧ ended.Deserted ∧ ended.result ≠ none) ∧
      (stranded.step? PipePair.near = none ∧ stranded.Deserted ∧ stranded.Stalls PipePair.near ∧
        (stranded.runShared PipePair.near later).result = none) := by
  intro offer accepted before channel start leaves notices halfOpen later left ended stranded
  -- the states stay as runs, so that nothing evaluates them but the kernel
  unfold left ended stranded start channel
  have departure := peer_departure_ends PipePair.near offer true {} {} before (.ofCapacity 2)
  have running : left.result = none := Option.isNone_iff_eq_none.1 (by decide +kernel)
  have leftGone : left.channel.output.attached = false := by decide +kernel
  have leftReads : left.inbound ≠ .finished := by decide +kernel
  have fails := (departure leaves).1 running leftGone leftReads
  have endedSettled : ended.step? PipePair.near = none :=
    Option.isNone_iff_eq_none.1 (by decide +kernel)
  have endedGone : ended.Deserted := ⟨by decide +kernel, by decide +kernel⟩
  have endedReads : ended.inbound ≠ .finished := by decide +kernel
  have isOver := ((departure notices).2 endedSettled endedGone).resolve_right
    fun waits => endedReads waits.1
  have strandedSettled : stranded.step? PipePair.near = none :=
    Option.isNone_iff_eq_none.1 (by decide +kernel)
  have strandedGone : stranded.Deserted := ⟨by decide +kernel, by decide +kernel⟩
  have strandedRuns : stranded.result = none := Option.isNone_iff_eq_none.1 (by decide +kernel)
  have stays := ((departure halfOpen).2 strandedSettled strandedGone).resolve_left
    (not_not_intro strandedRuns)
  have noTarget : ∀ act ∈ later, ∀ change, act ≠ .tunnel (.target change) := by
    simp only [later, List.forall_mem_cons, ne_eq, SharedRelayAct.tunnel.injEq]
    exact ⟨fun _ => nofun, fun _ => nofun, nofun⟩
  exact ⟨⟨running, leftGone, leftReads, fails⟩,
    ⟨endedSettled, endedGone, isOver⟩,
    ⟨strandedSettled, strandedGone, stays.2.1, stays.2.2 later noTarget⟩⟩

/-- The peer is gone with all of its channel, neither direction makes a step, and the tunnel goes
on: the far end has ended, and one byte of three finds no room. -/
theorem outlives_peer :
    let accepted := Channel.ofOffer ⟨"direct-tcpip", .empty⟩ true
    let channel := { accepted with requests := accepted.requests.dropSender }
    let start : Relay PipePair := { channel, target := .ofCapacity 2 }
    let relay := start.runShared PipePair.near
      [.tunnel (.target fun pair => { pair with inward := pair.inward.close }), .tunnel .inward,
        .tunnel (.peer (.offer 0 ⟨#[97, 98, 99]⟩)), .tunnel .outward, .tunnel .outward,
        .tunnel (.peer .dropSender), .tunnel (.transport .leave)]
    relay.Deserted ∧ relay.channel.requests.box.senders = 0 ∧
      relay.step? PipePair.near = none ∧ relay.result = none := by
  intro accepted channel start relay
  have settled : relay.step? PipePair.near = none :=
    Option.isNone_iff_eq_none.1 (by decide +kernel)
  have running : relay.result = none := Option.isNone_iff_eq_none.1 (by decide +kernel)
  exact ⟨⟨by decide +kernel, by decide +kernel⟩, by decide +kernel, settled, running⟩

end Relay

end SshServer
