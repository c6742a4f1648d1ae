import SshServer.Proofs.Output.Places
import SshServer.Proofs.Output.Results

/-!
Contract: writers are served in the order in which they came.

Owns: the sends that were woken; the runs in which those go on before anything else is done; the
calls that succeed, as an onlooker sees them, each with the places in the run at which it began and
was done; that no such call overtakes an earlier one; and that nothing is sent past those who wait.
Does not own: the line in which requests wait (`Proofs.Output.Line`), and that what succeeds is
delivered (`Proofs.Output.Delivery`).

A send is woken when it has its credit, but nothing is queued before it goes on. What is free by then
could be had by others, and a send that was woken later could go on first. So the order is kept where
woken sends go on at once, first come first. It is not enough that they go on at once: of two that
were woken together, the one that goes on first comes first in the output.
-/

namespace SshServer.Outbox

/-! ### Turns -/

/-- The sends that have their credit and have not gone on, in the order in which they were woken. -/
def woken (box : Outbox) : List Nat :=
  (box.credit.granted.map Prod.fst).filter fun ticket => (box.sends.lookup ticket).isSome

/-- Of the sends that were woken the first goes on, and nothing else is done before all have. -/
def InTurn (box : Outbox) : OutputAct → Prop
  | .stream (.resume ticket) => ticket ∈ box.woken → box.woken.head? = some ticket
  | _ => box.woken = []

/-- A run in which the sends that are woken go on, first come first, before anything else is done. -/
def Prompt (box : Outbox) : List OutputAct → Prop
  | [] => True
  | act :: rest => box.InTurn act ∧ (box.step act).Prompt rest

/-- A run in which the sends that are woken go on before anything else is done, in any order. -/
def WokenFirst (box : Outbox) : List OutputAct → Prop
  | [] => True
  | act :: rest =>
      ((∀ ticket, act ≠ .stream (.resume ticket)) → box.woken = []) ∧ (box.step act).WokenFirst rest

theorem idle_of_inTurn {box : Outbox} {act : OutputAct} (inTurn : box.InTurn act)
    (notResume : ∀ ticket, act ≠ .stream (.resume ticket)) : box.woken = [] := by
  unfold InTurn at inTurn
  split at inTurn
  next ticket => exact absurd rfl (notResume ticket)
  · exact inTurn

/-- In a prompt run the sends that are woken go on before anything else is done. -/
theorem Prompt.wokenFirst {box : Outbox} {acts : List OutputAct} (prompt : box.Prompt acts) :
    box.WokenFirst acts := by
  induction acts generalizing box with
  | nil => trivial
  | cons act rest inductionHypothesis =>
      exact ⟨idle_of_inTurn prompt.1, inductionHypothesis prompt.2⟩

/-- Where something else than going on is done, nobody is woken. -/
theorem WokenFirst.idle {box : Outbox} {acts : List OutputAct} (wokenFirst : box.WokenFirst acts)
    {place : Nat} {act : OutputAct} (here : acts[place]? = some act)
    (notResume : ∀ ticket, act ≠ .stream (.resume ticket)) :
    (box.atPlace acts place).woken = [] := by
  induction acts generalizing box place with
  | nil => exact absurd here (Option.some_ne_none _).symm
  | cons first rest inductionHypothesis =>
      cases place with
      | zero =>
          obtain rfl := Option.some.inj here
          exact wokenFirst.1 notResume
      | succ place => exact inductionHypothesis wokenFirst.2 here

theorem Prompt.inTurn {box : Outbox} {acts : List OutputAct} (prompt : box.Prompt acts) {place : Nat}
    {act : OutputAct} (here : acts[place]? = some act) : (box.atPlace acts place).InTurn act := by
  induction acts generalizing box place with
  | nil => exact absurd here (Option.some_ne_none _).symm
  | cons first rest inductionHypothesis =>
      cases place with
      | zero =>
          obtain rfl := Option.some.inj here
          exact prompt.1
      | succ place => exact inductionHypothesis prompt.2 here

section Turns

variable {box : Outbox}

theorem mem_woken {entry : Nat × Message} (waits : entry ∈ box.sends) {amount : Nat}
    (granted : (entry.1, amount) ∈ box.credit.granted) : entry.1 ∈ box.woken := by
  obtain ⟨message, found⟩ : ∃ message, box.sends.lookup entry.1 = some message :=
    Awaits.exists_lookup ⟨entry.2, waits⟩
  exact List.mem_filter.2 ⟨List.mem_map.2 ⟨_, granted, rfl⟩, Option.isSome_iff_exists.2 ⟨_, found⟩⟩

/-- Sends are woken in the order of their tickets. -/
theorem Sound.woken_rising (sound : box.Sound) : box.woken.Pairwise (· < ·) := by
  have granted := (List.pairwise_append.1 sound.ordered.rising).1
  exact (List.pairwise_map.2 granted).sublist List.filter_sublist

/-- A send that waits has asked for the credit that its message costs. -/
theorem Sound.mem_demands (sound : box.Sound) {entry : Nat × Message} (waits : entry ∈ box.sends) :
    (entry.1, entry.2.cost) ∈ box.credit.demands := by
  apply sound.ledger.matched.mem_iff.1
  exact List.mem_append_left _ (List.mem_map.2 ⟨entry, waits, rfl⟩)

theorem Sound.ticket_lt (sound : box.Sound) {entry : Nat × Message} (waits : entry ∈ box.sends) :
    entry.1 < box.nextTicket := by
  apply sound.ledger.fresh (entry.1, entry.2.cost)
  exact List.mem_append_left _ (List.mem_map.2 ⟨entry, waits, rfl⟩)

/-- While a send or a poll waits that has not been filled, nothing is free. -/
theorem Sound.free_of_lacking (sound : box.Sound) {demand : Nat × Nat}
    (demanded : demand ∈ box.demands) (lacking : demand.1 ∉ box.credit.granted.map Prod.fst) :
    box.credit.free = 0 := by
  apply sound.ledger.fair.spent
  rcases List.mem_append.1 (sound.ledger.matched.mem_iff.1 demanded) with waits | granted
  · intro nobody
    rw [nobody] at waits
    exact absurd waits List.not_mem_nil
  · exact absurd (List.mem_map_of_mem granted) lacking

/-- Where nobody was woken, nobody who waits has been filled. -/
theorem lacking_of_idle (idle : box.woken = []) {entry : Nat × Message} (waits : entry ∈ box.sends) :
    entry.1 ∉ box.credit.granted.map Prod.fst := by
  intro member
  obtain ⟨⟨_, amount⟩, granted, rfl⟩ := List.mem_map.1 member
  have isWoken := mem_woken waits granted
  rw [idle] at isWoken
  exact absurd isWoken List.not_mem_nil

/-- There is credit to be had at once only where no send waits. -/
theorem Sound.sends_of_free (sound : box.Sound) (idle : box.woken = [])
    (someFree : 0 < box.credit.free) : box.sends = [] := by
  rw [List.eq_nil_iff_forall_not_mem]
  intro entry waits
  have demanded : (entry.1, entry.2.cost) ∈ box.demands :=
    List.mem_append_left _ (List.mem_map.2 ⟨entry, waits, rfl⟩)
  rw [sound.free_of_lacking demanded (lacking_of_idle idle waits)] at someFree
  exact absurd someFree (Nat.lt_irrefl 0)

theorem cost_pos {message : Message} (notEmpty : 0 < message.content.size) : 0 < message.cost :=
  Nat.lt_min.2 ⟨notEmpty, by decide⟩

/-- A send that is done at once found its credit free. -/
theorem free_of_send {message : Message} (succeeds : (box.send message).2 = .done (.ok ())) :
    message.cost ≤ box.credit.free := by
  revert succeeds
  unfold send
  split
  · exact nofun
  · split
    · exact nofun
    next granted => exact fun _ => (Credit.acquire_granted granted).1
    · exact nofun

theorem free_of_trySend {message : Message} (succeeds : (box.trySend message).2 = .ok ()) :
    message.cost ≤ box.credit.free := by
  revert succeeds
  unfold trySend
  split
  · exact nofun
  · split
    · exact nofun
    · exact nofun
    next granted => exact fun _ => (Credit.tryAcquire_granted granted).1

/-- A send that goes on had been filled, and was one of those who wait. -/
theorem filled_of_resume {ticket : Nat} (succeeds : (box.resume ticket).2 = .done (.ok ())) :
    (∃ message, box.sends.lookup ticket = some message) ∧
      ∃ amount, (ticket, amount) ∈ box.credit.granted := by
  revert succeeds
  unfold resume
  split
  · exact nofun
  next message found =>
    split
    · exact nofun
    · exact nofun
    next granted => exact fun _ => ⟨⟨message, found⟩, (Credit.resume_granted granted).1⟩

/-- A send that goes on in its turn leaves nobody behind who came before it. -/
theorem Sound.first_in_turn (sound : box.Sound) {ticket : Nat}
    (inTurn : box.InTurn (.stream (.resume ticket)))
    (succeeds : (box.resume ticket).2 = .done (.ok ())) {entry : Nat × Message}
    (waits : entry ∈ box.sends) : ticket ≤ entry.1 := by
  obtain ⟨⟨message, found⟩, amount, granted⟩ := filled_of_resume succeeds
  have isWoken : ticket ∈ box.woken := mem_woken (mem_of_lookup found) granted
  have isFirst := inTurn isWoken
  by_contra earlier
  have alsoGranted :=
    sound.ordered.granted_of_lt (Nat.not_le.1 earlier) (sound.mem_demands waits) granted
  -- Both were woken, and the one that came first was woken first.
  have alsoWoken : entry.1 ∈ box.woken := mem_woken waits alsoGranted
  have rising := sound.woken_rising
  cases order : box.woken with
  | nil =>
      rw [order] at isWoken
      exact absurd isWoken List.not_mem_nil
  | cons first others =>
      rw [order] at isFirst alsoWoken rising
      obtain rfl := Option.some.inj isFirst
      rcases List.mem_cons.1 alsoWoken with same | behind
      · exact earlier (Nat.le_of_eq same.symm)
      · exact earlier (Nat.le_of_lt ((List.pairwise_cons.1 rising).1 _ behind))

end Turns

/-! ### Sends that have begun to wait -/

theorem nextTicket_le_run (box : Outbox) (acts : List OutputAct) :
    box.nextTicket ≤ (box.run acts).nextTicket := by
  induction acts generalizing box with
  | nil => exact Nat.le_refl _
  | cons act rest inductionHypothesis =>
      exact Nat.le_trans (box.step_moves act).le (inductionHypothesis (box.step act))

/-- A send that waits with a ticket that was given out before has waited since. -/
theorem mem_sends_of_run {box : Outbox} {acts : List OutputAct} {entry : Nat × Message}
    (old : entry.1 < box.nextTicket) (waits : entry ∈ (box.run acts).sends) :
    entry ∈ box.sends := by
  induction acts generalizing box with
  | nil => exact waits
  | cons act rest inductionHypothesis =>
      have stillOld := Nat.lt_of_lt_of_le old (box.step_moves act).le
      rcases mem_sends_of_step (inductionHypothesis stillOld waits) with before | isNew
      · exact before
      · exact absurd isNew (Nat.ne_of_lt old)

/-- A send that began to wait at a place of a run, and what was begun. -/
structure WaitsFrom (box : Outbox) (acts : List OutputAct) (begun ticket : Nat)
    (message : Message) : Prop where
  isNext : ticket = (box.atPlace acts begun).nextTicket
  sends : (box.atPlace acts (begun + 1)).sends =
    (box.atPlace acts begun).sends ++ [(ticket, message)]
  passed : ticket < (box.atPlace acts (begun + 1)).nextTicket

/-- A send that is told to wait begins to wait, with what it was to send. -/
theorem Sound.waitsFrom {box : Outbox} (sound : box.Sound) {acts : List OutputAct}
    {begun ticket : Nat} {code : Option UInt32} {content : ByteArray}
    (shown : (box.transcript acts)[begun]? =
      some (.stream (.send code content), .sending (.waiting ticket))) :
    box.WaitsFrom acts begun ticket (.ofStream code content) := by
  obtain ⟨here, answered⟩ := answer_at shown
  have waits : ((box.atPlace acts begun).send (.ofStream code content)).2 = .waiting ticket :=
    OutputAnswer.sending.inj answered
  have next := box.atPlace_succ here
  obtain ⟨isNext, sends⟩ := send_of_waiting waits
  have appended : (box.atPlace acts (begun + 1)).sends =
      (box.atPlace acts begun).sends ++ [(ticket, .ofStream code content)] := by
    rw [next, isNext]
    exact sends
  have isWaiting : (ticket, .ofStream code content) ∈ (box.atPlace acts (begun + 1)).sends := by
    rw [appended]
    exact List.mem_append_right _ (List.mem_singleton_self _)
  have soundNext : (box.atPlace acts (begun + 1)).Sound := sound.run _
  exact ⟨isNext, appended, soundNext.ticket_lt isWaiting⟩

/-- Whoever waits with its ticket is that send, which has waited all the time. -/
theorem WaitsFrom.eq_and_mem {box : Outbox} (sound : box.Sound) {acts : List OutputAct}
    {begun ticket done : Nat} {message other : Message}
    (waitsFrom : box.WaitsFrom acts begun ticket message) (after : begun < done)
    (waits : (ticket, other) ∈ (box.atPlace acts done).sends) :
    other = message ∧ ∀ place, begun < place → place ≤ done →
      (ticket, message) ∈ (box.atPlace acts place).sends := by
  have waitedAt (place : Nat) (afterBegun : begun < place) (beforeDone : place ≤ done) :
      (ticket, other) ∈ (box.atPlace acts place).sends := by
    obtain ⟨first, split⟩ := box.exists_run_atPlace acts (Nat.succ_le_of_lt afterBegun)
    obtain ⟨between, later⟩ := box.exists_run_atPlace acts beforeDone
    rw [later] at waits
    apply mem_sends_of_run _ waits
    rw [split]
    exact Nat.lt_of_lt_of_le waitsFrom.passed (nextTicket_le_run _ _)
  have atBegin := waitedAt (begun + 1) (Nat.lt_succ_self _) (Nat.succ_le_of_lt after)
  rw [waitsFrom.sends] at atBegin
  -- No earlier send has the ticket, so the one that has it is the one that was begun.
  have same : other = message := by
    rcases List.mem_append.1 atBegin with earlier | isNew
    · have soundThen : (box.atPlace acts begun).Sound := sound.run _
      exact absurd waitsFrom.isNext (Nat.ne_of_lt (soundThen.ticket_lt earlier))
    · exact congrArg Prod.snd (List.mem_singleton.1 isNew)
  subst same
  exact ⟨rfl, waitedAt⟩

/-! ### Calls that succeed -/

/-- A send of a log that succeeded, with the places at which it began and was done. -/
inductive SendSucceeds (log : List (OutputAct × OutputAnswer)) : Message → Nat → Nat → Prop where
  | atOnce {code : Option UInt32} {content : ByteArray} {place : Nat}
      (shown : log[place]? = some (.stream (.send code content), .sending (.done (.ok ())))) :
      SendSucceeds log (.ofStream code content) place place
  | afterWait {code : Option UInt32} {content : ByteArray} {ticket begun done : Nat}
      (waits : log[begun]? = some (.stream (.send code content), .sending (.waiting ticket)))
      (later : begun < done)
      (goesOn : log[done]? = some (.stream (.resume ticket), .sending (.done (.ok ())))) :
      SendSucceeds log (.ofStream code content) begun done

/-- A call of a log that sends a message, be it one that waits or one that does not, and that
succeeded. -/
inductive CallSucceeds (log : List (OutputAct × OutputAnswer)) : Message → Nat → Nat → Prop where
  | send {message : Message} {begun done : Nat} (succeeds : SendSucceeds log message begun done) :
      CallSucceeds log message begun done
  | trySend {code : Option UInt32} {content : ByteArray} {place : Nat}
      (shown : log[place]? = some (.stream (.trySend code content), .unit (.ok ()))) :
      CallSucceeds log (.ofStream code content) place place

section Calls

variable {box : Outbox} {acts : List OutputAct} {message : Message} {begun done : Nat}

/-- A call is done at once, or it is a send that waits until it is done, and then goes on. -/
theorem CallSucceeds.cases (sound : box.Sound)
    (succeeds : CallSucceeds (box.transcript acts) message begun done) :
    (begun = done ∧ message.cost ≤ (box.atPlace acts done).credit.free ∧
        ∃ act, acts[done]? = some act ∧ (∀ ticket, act ≠ .stream (.resume ticket))) ∨
      (begun < done ∧ ∃ ticket, box.WaitsFrom acts begun ticket message ∧
        acts[done]? = some (.stream (.resume ticket)) ∧
        ((box.atPlace acts done).resume ticket).2 = .done (.ok ())) := by
  cases succeeds with
  | trySend shown =>
      obtain ⟨here, answered⟩ := answer_at shown
      exact .inl ⟨rfl, free_of_trySend (OutputAnswer.unit.inj answered), _, here, nofun⟩
  | send succeeds =>
      cases succeeds with
      | atOnce shown =>
          obtain ⟨here, answered⟩ := answer_at shown
          exact .inl ⟨rfl, free_of_send (OutputAnswer.sending.inj answered), _, here, nofun⟩
      | afterWait waits later goesOn =>
          obtain ⟨here, answered⟩ := answer_at goesOn
          exact .inr ⟨later, _, sound.waitsFrom waits, here, OutputAnswer.sending.inj answered⟩

/-- A call that sends something does not overtake a send that began before it. -/
theorem Sound.not_overtaken (sound : box.Sound) (prompt : box.Prompt acts) {later : Message}
    {begunLater doneLater : Nat}
    (first : SendSucceeds (box.transcript acts) message begun done)
    (second : CallSucceeds (box.transcript acts) later begunLater doneLater)
    (order : begun < begunLater) (notEmpty : 0 < later.content.size) : done < doneLater := by
  by_contra overtaken
  have soundAt (place : Nat) : (box.atPlace acts place).Sound := sound.run _
  rcases (CallSucceeds.send first).cases sound with
    ⟨atOnce, -⟩ | ⟨waited, ticket, waitsFrom, goesOn, answered⟩
  · rcases second.cases sound with ⟨same, -⟩ | ⟨after, -⟩
    · omega
    · omega
  · obtain ⟨⟨other, found⟩, -⟩ := filled_of_resume answered
    -- The first send waits all the time, also when the second one begins and is done.
    have waits := (waitsFrom.eq_and_mem sound waited (mem_of_lookup found)).2
    rcases second.cases sound with ⟨same, affordable, act, here, notResume⟩ |
      ⟨after, ticketLater, waitsLater, here, answeredLater⟩
    · have isWaiting := waits doneLater (by omega) (by omega)
      have idle := prompt.wokenFirst.idle here notResume
      have someFree := Nat.lt_of_lt_of_le (cost_pos notEmpty) affordable
      rw [(soundAt doneLater).sends_of_free idle someFree] at isWaiting
      exact absurd isWaiting List.not_mem_nil
    · have atBegin := (soundAt begunLater).ticket_lt (waits begunLater order (by omega))
      have atEnd := (soundAt doneLater).first_in_turn (prompt.inTurn here) answeredLater
        (waits doneLater (by omega) (by omega))
      rw [← waitsLater.isNext] at atBegin
      exact absurd atEnd (Nat.not_le.2 atBegin)

end Calls

/-! ### Results -/

section Calls

variable {box : Outbox} {acts : List OutputAct} {message : Message} {begun done : Nat}

/-- When a call is done, its message comes next in the output. -/
theorem CallSucceeds.succeeded (sound : box.Sound) (agree : Account.Matches {} box)
    (succeeds : CallSucceeds (box.transcript acts) message begun done) :
    succeededBefore (box.transcript acts) (done + 1) =
      succeededBefore (box.transcript acts) done ++ [message] := by
  cases succeeds with
  | trySend shown => rw [succeededBefore_succ shown]; rfl
  | send succeeds =>
      cases succeeds with
      | atOnce shown => rw [succeededBefore_succ shown]; rfl
      | @afterWait code content ticket _ _ waits later goesOn =>
          have waitsFrom := sound.waitsFrom waits
          obtain ⟨⟨other, found⟩, -⟩ :=
            filled_of_resume (OutputAnswer.sending.inj (answer_at goesOn).2)
          obtain ⟨rfl, -⟩ := waitsFrom.eq_and_mem sound later (mem_of_lookup found)
          have known : (Account.ofTranscript ((box.transcript acts).take done)).waiting.lookup ticket =
              some (.ofStream code content) := by
            rw [take_transcript]
            exact (agree.run (acts.take done)).waiting ▸ found
          rw [succeededBefore_succ goesOn, Account.enter, known]
          rfl

/-- A try_ fails where somebody waits who has not been filled. -/
theorem Sound.wouldBlock (sound : box.Sound) (idle : box.woken = []) (accepted : box.refusal? = none)
    (somebodyWaits : box.sends ≠ [] ∨
      ∃ poll ∈ box.polls, poll.2.ticket ∉ box.credit.granted.map Prod.fst)
    (code : Option UInt32) {content : ByteArray} (notEmpty : 0 < content.size) :
    box.trySend (.ofStream code content) = (box, .error .wouldBlock) := by
  have nothingFree : box.credit.free = 0 := by
    rcases somebodyWaits with sends | ⟨poll, polls, lacking⟩
    · by_contra someFree
      exact sends (sound.sends_of_free idle (Nat.pos_of_ne_zero someFree))
    · have demanded : (poll.2.ticket, poll.2.amount) ∈ box.demands :=
        List.mem_append_right _ (List.mem_map.2 ⟨poll, polls, rfl⟩)
      exact sound.free_of_lacking demanded lacking
  apply (sound.accepts accepted).full
  rw [nothingFree]
  exact Nat.lt_min.2 ⟨notEmpty, by decide⟩

end Calls

/-- In a run in which the sends that are woken go on before anything else is done, whatever else
happens: if they go on first come first, then of two calls that succeed the message of the send that
began first comes first in the output, provided that the second has something to send. And while a
send waits, or a poll that has not been filled, on a channel that is neither closed nor left, a call
that would not wait fails, if it has something to send, and changes nothing. -/
theorem served_in_turn (offer : ChannelOffer) (awaited : Bool) (acts : List OutputAct)
    (wokenFirst : (Channel.ofOffer offer awaited).output.WokenFirst acts) :
    let start := (Channel.ofOffer offer awaited).output
    let log := start.transcript acts
    let account := Account.ofTranscript log
    (start.Prompt acts →
        ∀ first second begun done begunLater doneLater, SendSucceeds log first begun done →
          CallSucceeds log second begunLater doneLater → begun < begunLater →
          0 < second.content.size →
          succeededBefore log done ++ [first] <+: succeededBefore log doneLater ∧
            succeededBefore log doneLater ++ [second] <+: account.succeeded) ∧
      ((start.run acts).attached = true →
        account.received ++ (start.run acts).queue.toList.map Prod.fst = account.succeeded) ∧
      account.received <+: account.succeeded ∧
      ∀ place code content answer,
        log[place]? = some (.stream (.trySend code content), answer) → 0 < content.size →
        (start.atPlace acts place).refusal? = none →
        ((start.atPlace acts place).sends ≠ [] ∨ ∃ poll ∈ (start.atPlace acts place).polls,
          poll.2.ticket ∉ (start.atPlace acts place).credit.granted.map Prod.fst) →
        answer = .unit (.error .wouldBlock) ∧
          start.atPlace acts (place + 1) = start.atPlace acts place := by
  intro start log account
  have sound : start.Sound := .ofOffer offer awaited
  have agree : Account.Matches {} start := .ofOffer offer awaited
  have agreeAfter : Account.Matches account (start.run acts) := agree.run acts
  refine ⟨?_, agreeAfter.complete, (List.prefix_append _ _).trans agreeAfter.inOrder, ?_⟩
  · intro prompt first second begun done begunLater doneLater earlier later order notEmpty
    have inOrder := sound.not_overtaken prompt earlier later order notEmpty
    rw [← (CallSucceeds.send earlier).succeeded sound agree, ← later.succeeded sound agree]
    exact ⟨succeededBefore_mono log inOrder, succeededBefore_begins log _⟩
  · intro place code content answer shown notEmpty accepted somebodyWaits
    obtain ⟨here, answered⟩ := answer_at shown
    have soundHere : (start.atPlace acts place).Sound := sound.run _
    have idle := wokenFirst.idle here nofun
    have blocked := soundHere.wouldBlock idle accepted somebodyWaits code notEmpty
    constructor
    · rw [← answered]
      exact congrArg OutputAnswer.unit (congrArg Prod.snd blocked)
    · rw [start.atPlace_succ here]
      exact congrArg Prod.fst blocked

/-- A content that takes the whole window is under way, two bytes wait behind it, and a third byte is
tried. Then the transport takes the first message, and both bytes go on, in either order. -/
def queueing (content : ByteArray) (first second : Nat) : List OutputAct :=
  [.stream (.send none content), .stream (.send none ⟨#[98]⟩), .stream (.send none ⟨#[99]⟩),
    .stream (.trySend none ⟨#[100]⟩), .stream .take, .stream (.resume first),
    .stream (.resume second)]

section Queueing

variable {content : ByteArray}

/-- The window comes back, and fills both that wait for a byte. -/
theorem release_to_bytes :
    Credit.release ⟨0, [⟨0, 1, 0⟩, ⟨1, 1, 0⟩], [], false⟩ outputWindow =
      ⟨outputWindow - 2, [], [(0, 1), (1, 1)], false⟩ := by
  simp [Credit.release, Credit.assign, outputWindow]

theorem cost_byte (byte : UInt8) : (Message.data ⟨#[byte]⟩).cost = 1 :=
  rfl

theorem prompt_queueing (fills : (Message.data content).cost = outputWindow) :
    (Channel.ofOffer ⟨"session", .empty⟩ true).output.Prompt (queueing content 0 1) := by
  have window : outputWindow ≠ 0 := by decide
  simp [queueing, Prompt, InTurn, woken, step, perform, performStream, send, trySend, take?, resume,
    push, forgetSend, Credit.acquire, Credit.tryAcquire, Credit.resume, Credit.forget,
    release_to_bytes, Channel.ofOffer, Message.ofStream, Fifo.push, Fifo.pop?, Fifo.empty, fills,
    cost_byte, window]

/-- Both bytes go on before anything else is done, be it in this order or the other way round. -/
theorem wokenFirst_queueing (fills : (Message.data content).cost = outputWindow) :
    (Channel.ofOffer ⟨"session", .empty⟩ true).output.WokenFirst (queueing content 1 0) := by
  have window : outputWindow ≠ 0 := by decide
  simp [queueing, WokenFirst, woken, step, perform, performStream, send, trySend, take?, push,
    Credit.acquire, Credit.tryAcquire, release_to_bytes, Channel.ofOffer, Message.ofStream,
    Fifo.push, Fifo.pop?, Fifo.empty, fills, cost_byte, window]

theorem transcript_queueing (fills : (Message.data content).cost = outputWindow)
    {first second : Nat} (order : (first = 0 ∧ second = 1) ∨ (first = 1 ∧ second = 0)) :
    (Channel.ofOffer ⟨"session", .empty⟩ true).output.transcript (queueing content first second) =
      [(.stream (.send none content), .sending (.done (.ok ()))),
        (.stream (.send none ⟨#[98]⟩), .sending (.waiting 0)),
        (.stream (.send none ⟨#[99]⟩), .sending (.waiting 1)),
        (.stream (.trySend none ⟨#[100]⟩), .unit (.error .wouldBlock)),
        (.stream .take, .received (some (.data content))),
        (.stream (.resume first), .sending (.done (.ok ()))),
        (.stream (.resume second), .sending (.done (.ok ())))] := by
  have window : outputWindow ≠ 0 := by decide
  rcases order with ⟨rfl, rfl⟩ | ⟨rfl, rfl⟩
  all_goals
    simp [queueing, transcript, observed, step, perform, performStream, send, trySend, take?,
      resume, push, forgetSend, Credit.acquire, Credit.tryAcquire, Credit.resume, Credit.forget,
      release_to_bytes, Channel.ofOffer, Message.ofStream, Fifo.push, Fifo.pop?, Fifo.empty, fills,
      cost_byte, window, List.lookup_cons]

/-- Both bytes are sent, each when it goes on. -/
theorem succeeds_queueing (fills : (Message.data content).cost = outputWindow)
    {first second : Nat} (order : (first = 0 ∧ second = 1) ∨ (first = 1 ∧ second = 0)) :
    let log :=
      (Channel.ofOffer ⟨"session", .empty⟩ true).output.transcript (queueing content first second)
    SendSucceeds log (.data ⟨#[98]⟩) 1 (5 + first) ∧
      SendSucceeds log (.data ⟨#[99]⟩) 2 (5 + second) := by
  intro log
  have shown : log = _ := transcript_queueing fills order
  rw [shown]
  constructor
  · show SendSucceeds _ (.ofStream none ⟨#[98]⟩) 1 (5 + first)
    rcases order with ⟨rfl, rfl⟩ | ⟨rfl, rfl⟩
    · exact .afterWait rfl (by decide) rfl
    · exact .afterWait rfl (by decide) rfl
  · show SendSucceeds _ (.ofStream none ⟨#[99]⟩) 2 (5 + second)
    rcases order with ⟨rfl, rfl⟩ | ⟨rfl, rfl⟩
    · exact .afterWait rfl (by decide) rfl
    · exact .afterWait rfl (by decide) rfl

/-- What is left in the output once the byte that was sent later went on first. -/
theorem queue_queueing (fills : (Message.data content).cost = outputWindow) :
    ((Channel.ofOffer ⟨"session", .empty⟩ true).output.run (queueing content 1 0)).queue.toList =
      [(.data ⟨#[99]⟩, 1), (.data ⟨#[98]⟩, 1)] := by
  have window : outputWindow ≠ 0 := by decide
  simp [queueing, run, runFrom, step, perform, performStream, send, trySend, take?,
    resume, push, forgetSend, Credit.acquire, Credit.tryAcquire, Credit.resume, Credit.forget,
    release_to_bytes, Channel.ofOffer, Message.ofStream, Fifo.push, Fifo.pop?, Fifo.empty,
    Fifo.toList, fills, cost_byte, window, List.lookup_cons]

end Queueing

/-- Both bytes were told to wait, and the one that was sent first comes first in the output. -/
theorem served_in_turn_of_queueing :
    let start := (Channel.ofOffer ⟨"session", .empty⟩ true).output
    let acts := queueing windowful 0 1
    let log := start.transcript acts
    (start.WokenFirst acts ∧ start.Prompt acts) ∧
      (SendSucceeds log (.data ⟨#[98]⟩) 1 5 ∧ CallSucceeds log (.data ⟨#[99]⟩) 2 6) ∧
      succeededBefore log 5 ++ [.data ⟨#[98]⟩] <+: succeededBefore log 6 ∧
      succeededBefore log 6 ++ [.data ⟨#[99]⟩] <+: (Account.ofTranscript log).succeeded := by
  intro start acts log
  have prompt : start.Prompt acts := prompt_queueing cost_windowful
  have wokenFirst := prompt.wokenFirst
  obtain ⟨first, second⟩ := succeeds_queueing cost_windowful (.inl ⟨rfl, rfl⟩)
  refine ⟨⟨wokenFirst, prompt⟩, ⟨first, .send second⟩, ?_⟩
  apply (served_in_turn ⟨"session", .empty⟩ true acts wokenFirst).1 prompt _ _ _ _ _ _ first
    (.send second)
  · decide
  · decide

/-- Where the one that was sent later goes on first, it comes first in the output, although both go
on before anything else is done. -/
theorem overtaken_by_woken :
    let start := (Channel.ofOffer ⟨"session", .empty⟩ true).output
    let log := start.transcript (queueing windowful 1 0)
    start.WokenFirst (queueing windowful 1 0) ∧
      (SendSucceeds log (.data ⟨#[98]⟩) 1 6 ∧ SendSucceeds log (.data ⟨#[99]⟩) 2 5) ∧
      (Account.ofTranscript log).received = [.data windowful] ∧
      (start.run (queueing windowful 1 0)).queue.toList.map Prod.fst =
        [.data ⟨#[99]⟩, .data ⟨#[98]⟩] := by
  intro start log
  refine ⟨wokenFirst_queueing cost_windowful,
    succeeds_queueing cost_windowful (.inr ⟨rfl, rfl⟩), ?_, ?_⟩
  · have shown : log = _ := transcript_queueing cost_windowful (.inr ⟨rfl, rfl⟩)
    rw [shown]
    rfl
  · rw [queue_queueing cost_windowful]
    rfl

end SshServer.Outbox
