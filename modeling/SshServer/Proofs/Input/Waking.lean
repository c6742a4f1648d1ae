import Mathlib.Data.List.Nodup
import SshServer.Proofs.Input.Stream

/-!
Contract: who is told that there is something to read.

Owns: when a reader looks at an input and finds nothing; what an operation does to those who wait;
which of them are told; and all of this for the readers of a session.
Does not own: what a reader is given once it looks (`Proofs.Input.Stream`).

An input keeps one reader in mind, the last that found nothing. Two readers that wait at once are
therefore not alike: the one that came first is forgotten as soon as the other finds nothing, and
then sleeps on whatever arrives, the end of the input included.
-/

namespace SshServer

/-- The reader that looks at the input by an operation, to receive a chunk or to read bytes. -/
def InletAct.reader? : InletAct → Option Nat
  | .receive reader | .read reader _ => some reader
  | .offer _ _ | .retry _ | .withdraw _ | .addSender | .dropSender | .detach => none

namespace Inlet

/-- Nothing is there to be read, and the input has not ended. -/
structure Dry (inlet : Inlet) : Prop where
  rest : inlet.rest.size = 0
  items : inlet.box.items.toList = []
  senders : inlet.box.senders ≠ 0

/-- What an operation does to those who wait. -/
inductive Stirs (inlet : Inlet) (act : InletAct) (after : Inlet) : Prop where
  | nobody (reader : act.reader? = none) (waker : after.waker = inlet.waker)
      (woken : after.woken = inlet.woken)
      (dry : ∀ reader, after.waker = some reader → inlet.Dry → after.Dry)
  | tells (told : Nat) (reader : act.reader? = none) (waker : inlet.waker = some told)
      (forgotten : after.waker = none) (woken : after.woken = inlet.woken ++ [told])
  /-- A reader looks and is done. -/
  | looks (looking : Nat) (reader : act.reader? = some looking) (found : ¬inlet.Dry)
      (answered : inlet.answer act ≠ .reading .waiting) (waker : after.waker = inlet.waker)
      (woken : after.woken = inlet.woken.erase looking)
  /-- A reader looks and has to wait, in place of any other. -/
  | waits (looking : Nat) (reader : act.reader? = some looking)
      (answered : inlet.answer act = .reading .waiting) (waker : after.waker = some looking)
      (woken : after.woken = inlet.woken.erase looking) (dry : after.Dry)

theorem ended_of_empty {inlet : Inlet} (items : inlet.box.items.toList = []) :
    inlet.box.ended = true ↔ inlet.box.senders = 0 := by
  rw [Mailbox.ended, Fifo.isEmpty_iff.2 items, Bool.true_and, beq_iff_eq]

/-! ### Senders -/

/-- Whatever a sender does, the reader that waits is told unless there is still nothing to tell. -/
theorem notify_stirs {inlet changed : Inlet} {act : InletAct} (reader : act.reader? = none)
    (waker : changed.waker = inlet.waker) (woken : changed.woken = inlet.woken)
    (rest : changed.rest = inlet.rest) : Stirs inlet act changed.notify := by
  unfold notify
  split
  next nobody =>
    exact .nobody reader waker woken fun _ waits => absurd (nobody.symm.trans waits) nofun
  next told waits =>
    split
    next nothing =>
      rw [Bool.and_eq_true, bne_iff_ne, Fifo.isEmpty_iff] at nothing
      refine .nobody reader waker woken fun _ _ dry => ⟨?_, nothing.1, nothing.2⟩
      rw [rest]
      exact dry.rest
    · exact .tells told reader (waker.symm.trans waits) rfl (congrArg (· ++ [told]) woken)

/-! ### Readers -/

/-- A reader that has used up what there was is at the end of the input, or has to wait. -/
theorem looks_or_waits {inlet middle : Inlet} (act : InletAct) {looking : Nat}
    (reader : act.reader? = some looking) (same : SameSenders inlet middle)
    (waker : middle.waker = inlet.waker) (woken : middle.woken = inlet.woken.erase looking)
    (noRest : middle.rest.size = 0) (noItems : middle.box.items.toList = [])
    (answer : inlet.answer act =
      .reading (if middle.box.ended then Reading.ended else .waiting)) :
    Stirs inlet act (if middle.box.ended then middle else middle.await looking) := by
  split
  next ended =>
    rw [if_pos ended] at answer
    have noSenders : inlet.box.senders = 0 :=
      same.senders.symm.trans ((ended_of_empty noItems).1 ended)
    have answered : inlet.answer act ≠ .reading .waiting := by
      rw [answer]
      exact fun waits => Reading.noConfusion (InletAnswer.reading.inj waits)
    exact .looks looking reader (fun dry => dry.senders noSenders) answered waker woken
  next notEnded =>
    rw [if_neg notEnded] at answer
    have someSender : middle.box.senders ≠ 0 := fun none =>
      notEnded ((ended_of_empty noItems).2 none)
    exact .waits looking reader answer rfl woken ⟨noRest, noItems, someSender⟩

theorem receive_stirs (inlet : Inlet) (reader : Nat) :
    Stirs inlet (.receive reader) (inlet.receive reader).1 := by
  cases taken : (inlet.attend reader).take? with
  | some pair =>
      have received : inlet.receive reader = (pair.2, .got pair.1) := by
        unfold receive
        dsimp only
        rw [taken]
      have found : ¬inlet.Dry := by
        intro dry
        have noItem : inlet.box.take? = none :=
          Option.map_eq_none_iff.2 (Fifo.pop?_eq_none_iff.2 dry.items)
        have nothing : (inlet.attend reader).take? = none := by
          unfold take?
          rw [if_pos (show (inlet.attend reader).rest.size = 0 from dry.rest)]
          exact Option.map_eq_none_iff.2 noItem
        exact absurd (nothing.symm.trans taken) nofun
      have kept : pair.2.waker = inlet.waker ∧ pair.2.woken = inlet.woken.erase reader := by
        unfold take? at taken
        split at taken
        · obtain ⟨_, -, rfl⟩ := Option.map_eq_some_iff.1 taken
          exact ⟨rfl, rfl⟩
        · obtain rfl := Option.some.inj taken
          exact ⟨rfl, rfl⟩
      have answered : inlet.answer (.receive reader) ≠ .reading .waiting := by
        rw [answer, received]
        exact fun waits => Reading.noConfusion (InletAnswer.reading.inj waits)
      rw [received]
      exact .looks reader rfl found answered kept.1 kept.2
  | none =>
      have received : inlet.receive reader =
          if inlet.box.ended then (inlet.attend reader, .ended)
          else ((inlet.attend reader).await reader, .waiting) := by
        unfold receive
        dsimp only
        rw [taken]
        rfl
      obtain ⟨noRest, noItems⟩ := nothing_of_take taken
      have same : SameSenders inlet (inlet.attend reader) := ⟨rfl, rfl, rfl⟩
      have stirs := looks_or_waits (.receive reader) rfl same rfl rfl noRest noItems
      rw [answer, received, apply_ite Prod.snd] at stirs
      rw [received, apply_ite Prod.fst]
      exact stirs rfl

/-- Going on to the next chunk changes nothing for those who wait. -/
theorem advance_keeps (chunks : Nat) (inlet : Inlet) :
    (inlet.advance chunks).waker = inlet.waker ∧ (inlet.advance chunks).woken = inlet.woken := by
  induction chunks generalizing inlet with
  | zero => exact ⟨rfl, rfl⟩
  | succ chunks inductionHypothesis =>
      unfold advance
      split
      · split
        · exact inductionHypothesis _
        · exact ⟨rfl, rfl⟩
      · exact ⟨rfl, rfl⟩

theorem read_stirs (inlet : Inlet) (reader count : Nat) :
    Stirs inlet (.read reader count) (inlet.read reader count).1 := by
  have attended : SameStream inlet (inlet.attend reader) := ⟨⟨rfl, rfl, rfl⟩, rfl⟩
  have same : SameSenders inlet ((inlet.attend reader).advance inlet.box.items.length) :=
    (attended.trans (advance_same _ _)).toSameSenders
  obtain ⟨waker, woken⟩ := advance_keeps inlet.box.items.length (inlet.attend reader)
  by_cases noRest : ((inlet.attend reader).advance inlet.box.items.length).rest.size = 0
  · have noItems := advance_exhausts inlet.box.items.length (inlet.attend reader)
      (Nat.le_of_eq (Fifo.length_toList inlet.box.items)) noRest
    have read : inlet.read reader count =
        if ((inlet.attend reader).advance inlet.box.items.length).box.ended
        then ((inlet.attend reader).advance inlet.box.items.length, .ended)
        else (((inlet.attend reader).advance inlet.box.items.length).await reader, .waiting) :=
      if_pos noRest
    have stirs := looks_or_waits (.read reader count) rfl same waker woken noRest noItems
    rw [answer, read, apply_ite Prod.snd] at stirs
    rw [read, apply_ite Prod.fst]
    exact stirs rfl
  · have found : ¬inlet.Dry := by
      intro dry
      have none : inlet.box.items.length = 0 := by
        rw [← Fifo.length_toList, dry.items, List.length_nil]
      rw [none] at noRest
      exact noRest dry.rest
    obtain ⟨rest, content, read, kept⟩ : ∃ rest content,
        inlet.read reader count = (rest, .got content) ∧
          rest.waker = inlet.waker ∧ rest.woken = inlet.woken.erase reader :=
      ⟨_, _, if_neg noRest, waker, woken⟩
    have answered : inlet.answer (.read reader count) ≠ .reading .waiting := by
      rw [answer, read]
      exact fun waits => Reading.noConfusion (InletAnswer.reading.inj waits)
    rw [read]
    exact .looks reader rfl found answered kept.1 kept.2

theorem step_stirs (inlet : Inlet) (act : InletAct) : Stirs inlet act (inlet.step act) := by
  cases act with
  | offer | retry | dropSender => exact notify_stirs rfl rfl rfl rfl
  | withdraw => exact .nobody rfl rfl rfl fun _ _ dry => ⟨dry.rest, dry.items, dry.senders⟩
  | addSender =>
      exact .nobody rfl rfl rfl fun _ _ dry => ⟨dry.rest, dry.items, Nat.succ_ne_zero _⟩
  | detach => exact .nobody rfl rfl rfl fun _ _ dry => ⟨rfl, rfl, dry.senders⟩
  | receive reader => exact inlet.receive_stirs reader
  | read reader count => exact inlet.read_stirs reader count

/-! ### Who is told -/

/-- The reader that is kept in mind waits beside nothing, and nobody is told twice. -/
structure Alert (inlet : Inlet) : Prop where
  dry : ∀ reader, inlet.waker = some reader → inlet.Dry
  apart : ∀ reader, inlet.waker = some reader → reader ∉ inlet.woken
  once : inlet.woken.Nodup

theorem Alert.step {inlet : Inlet} (alert : inlet.Alert) (act : InletAct) :
    (inlet.step act).Alert := by
  cases inlet.step_stirs act with
  | nobody reader waker woken dry =>
      refine ⟨fun told waits => dry told waits (alert.dry told (waker ▸ waits)), ?_, ?_⟩
      · rw [waker, woken]
        exact alert.apart
      · rw [woken]
        exact alert.once
  | tells told reader waker forgotten woken =>
      refine ⟨fun _ waits => absurd (forgotten.symm.trans waits) nofun,
        fun _ waits => absurd (forgotten.symm.trans waits) nofun, ?_⟩
      rw [woken]
      exact List.Nodup.append alert.once (List.nodup_singleton told)
        (List.disjoint_singleton.2 (alert.apart told waker))
  | looks looking reader found answered waker woken =>
      have nobody : ∀ reader, (inlet.step act).waker ≠ some reader := fun told waits =>
        found (alert.dry told (waker.symm.trans waits))
      refine ⟨fun told waits => absurd waits (nobody told),
        fun told waits => absurd waits (nobody told), ?_⟩
      rw [woken]
      exact alert.once.erase looking
  | waits looking reader answered waker woken dry =>
      refine ⟨fun _ _ => dry, fun told waits => ?_, ?_⟩
      · obtain rfl := Option.some.inj (waker.symm.trans waits)
        rw [woken]
        exact alert.once.not_mem_erase
      · rw [woken]
        exact alert.once.erase looking

theorem Alert.ofOffer (offer : ChannelOffer) (awaited : Bool) :
    (Channel.ofOffer offer awaited).input.Alert := by
  cases awaited
  all_goals exact ⟨fun _ waits => absurd waits nofun, fun _ waits => absurd waits nofun, .nil⟩

/-- A reader finds nothing by an operation, and is to wait. -/
def FindsNothing (inlet : Inlet) (reader : Nat) (act : InletAct) : Prop :=
  act.reader? = some reader ∧ inlet.answer act = .reading .waiting

/-- A reader is kept in mind, or was told. -/
def Minds (inlet : Inlet) (reader : Nat) : Prop :=
  inlet.waker = some reader ∨ reader ∈ inlet.woken

theorem minds_of_findsNothing {inlet : Inlet} {reader : Nat} {act : InletAct}
    (nothing : inlet.FindsNothing reader act) : (inlet.step act).Minds reader := by
  cases inlet.step_stirs act with
  | nobody isReader | tells _ isReader => exact absurd (isReader.symm.trans nothing.1) nofun
  | looks looking _ _ answered => exact absurd nothing.2 answered
  | waits looking isReader _ waker =>
      obtain rfl := Option.some.inj (isReader.symm.trans nothing.1)
      exact .inl waker

/-- Only another reader that finds nothing takes a reader's place, and only its own looking takes
back that it was told. -/
theorem Minds.step {inlet : Inlet} {reader : Nat} {act : InletAct} (minds : inlet.Minds reader)
    (asleep : act.reader? ≠ some reader) (undisturbed : ∀ other, ¬inlet.FindsNothing other act) :
    (inlet.step act).Minds reader := by
  cases inlet.step_stirs act with
  | nobody _ waker woken =>
      rw [Minds, waker, woken]
      exact minds
  | tells told _ waker _ woken =>
      right
      rw [woken, List.mem_append]
      rcases minds with kept | isTold
      · obtain rfl := Option.some.inj (waker.symm.trans kept)
        exact .inr (List.mem_singleton_self told)
      · exact .inl isTold
  | looks looking isReader _ _ waker woken =>
      have other : reader ≠ looking := fun same => asleep (same ▸ isReader)
      rw [Minds, waker, woken, List.mem_erase_of_ne other]
      exact minds
  | waits looking isReader answered => exact absurd ⟨isReader, answered⟩ (undisturbed looking)

/-- A reader that finds nothing takes the place of any other that was not told. -/
theorem not_minds_of_findsNothing {inlet : Inlet} {reader other : Nat} {act : InletAct}
    (nothing : inlet.FindsNothing other act) (asleep : act.reader? ≠ some reader)
    (untold : reader ∉ inlet.woken) : ¬(inlet.step act).Minds reader := by
  cases inlet.step_stirs act with
  | nobody isReader | tells _ isReader => exact absurd (isReader.symm.trans nothing.1) nofun
  | looks looking _ _ answered => exact absurd nothing.2 answered
  | waits looking isReader _ waker woken =>
      have different : reader ≠ looking := fun same => asleep (same ▸ isReader)
      rw [Minds, waker, woken, List.mem_erase_of_ne different, not_or]
      exact ⟨fun same => different (Option.some.inj same).symm, untold⟩

/-- Nobody else brings back a reader that was forgotten. -/
theorem not_minds_step {inlet : Inlet} {reader : Nat} {act : InletAct}
    (forgotten : ¬inlet.Minds reader) (asleep : act.reader? ≠ some reader) :
    ¬(inlet.step act).Minds reader := by
  rw [Minds, not_or] at forgotten ⊢
  cases inlet.step_stirs act with
  | nobody _ waker woken =>
      rw [waker, woken]
      exact forgotten
  | tells told _ waker gone woken =>
      have other : reader ≠ told := fun same => forgotten.1 (same ▸ waker)
      rw [gone, woken, List.mem_append, List.mem_singleton, not_or]
      exact ⟨nofun, forgotten.2, other⟩
  | looks looking isReader _ _ waker woken =>
      have other : reader ≠ looking := fun same => asleep (same ▸ isReader)
      rw [waker, woken, List.mem_erase_of_ne other]
      exact forgotten
  | waits looking isReader _ waker woken =>
      have other : reader ≠ looking := fun same => asleep (same ▸ isReader)
      rw [waker, woken, List.mem_erase_of_ne other]
      exact ⟨fun same => other (Option.some.inj same).symm, forgotten.2⟩

end Inlet

/-! ### The readers of a session -/

/-- The holder that looks at the input of a session by an operation. -/
def SessionAct.reader? : SessionAct → Option Nat
  | .input act => act.reader?
  | _ => none

namespace Session

/-- A holder finds nothing to read by an operation, and is to wait. -/
def FindsNothing (session : Session) (reader : Nat) (act : SessionAct) : Prop :=
  ∃ look, act = .input look ∧ session.channel.input.FindsNothing reader look

theorem alert_step {session : Session} (alert : session.channel.input.Alert) (act : SessionAct) :
    (session.step act).channel.input.Alert := by
  cases act with
  | input act => exact alert.step act
  | _ =>
      rw [step_input _ fun _ => SessionAct.noConfusion]
      exact alert

theorem alert_run {session : Session} (alert : session.channel.input.Alert)
    (acts : List SessionAct) : (session.run acts).channel.input.Alert :=
  runFrom_induction step (fun session => session.channel.input.Alert)
    (fun _ act alert => alert_step alert act) alert acts

theorem minds_of_findsNothing {session : Session} {reader : Nat} {act : SessionAct}
    (nothing : session.FindsNothing reader act) :
    (session.step act).channel.input.Minds reader := by
  obtain ⟨look, rfl, found⟩ := nothing
  exact Inlet.minds_of_findsNothing found

theorem not_minds_of_findsNothing {session : Session} {reader other : Nat} {act : SessionAct}
    (nothing : session.FindsNothing other act) (asleep : act.reader? ≠ some reader)
    (untold : reader ∉ session.channel.input.woken) :
    ¬(session.step act).channel.input.Minds reader := by
  obtain ⟨look, rfl, found⟩ := nothing
  exact Inlet.not_minds_of_findsNothing found asleep untold

theorem minds_step {session : Session} {reader : Nat} {act : SessionAct}
    (minds : session.channel.input.Minds reader) (asleep : act.reader? ≠ some reader)
    (undisturbed : ∀ other, ¬session.FindsNothing other act) :
    (session.step act).channel.input.Minds reader := by
  cases act with
  | input act =>
      exact minds.step asleep fun other nothing => undisturbed other ⟨act, rfl, nothing⟩
  | _ =>
      rw [step_input _ fun _ => SessionAct.noConfusion]
      exact minds

theorem not_minds_step {session : Session} {reader : Nat} {act : SessionAct}
    (forgotten : ¬session.channel.input.Minds reader) (asleep : act.reader? ≠ some reader) :
    ¬(session.step act).channel.input.Minds reader := by
  cases act with
  | input act => exact Inlet.not_minds_step forgotten asleep
  | _ =>
      rw [step_input _ fun _ => SessionAct.noConfusion]
      exact forgotten

theorem minds_run {session : Session} {reader : Nat} {acts : List SessionAct}
    (minds : session.channel.input.Minds reader)
    (asleep : ∀ act ∈ acts, act.reader? ≠ some reader)
    (undisturbed : ∀ first act rest other, acts = first ++ act :: rest →
      ¬(session.run first).FindsNothing other act) :
    (session.run acts).channel.input.Minds reader := by
  induction acts generalizing session with
  | nil => exact minds
  | cons act rest inductionHypothesis =>
      obtain ⟨now, later⟩ := List.forall_mem_cons.1 asleep
      refine inductionHypothesis (minds_step minds now fun other => ?_) later
        fun first again after other split => ?_
      · exact undisturbed [] act rest other rfl
      · exact undisturbed (act :: first) again after other (congrArg (act :: ·) split)

theorem not_minds_run {session : Session} {reader : Nat} {acts : List SessionAct}
    (forgotten : ¬session.channel.input.Minds reader)
    (asleep : ∀ act ∈ acts, act.reader? ≠ some reader) :
    ¬(session.run acts).channel.input.Minds reader := by
  induction acts generalizing session with
  | nil => exact forgotten
  | cons act rest inductionHypothesis =>
      obtain ⟨now, later⟩ := List.forall_mem_cons.1 asleep
      exact inductionHypothesis (not_minds_step forgotten now) later

/-- A holder that found nothing and has not looked again was told that there is something to read,
or that the input has ended, as soon as this is so: unless another holder found nothing in the
meantime. One that was overtaken so before it was told is not told any more, whatever arrives and
even where the input ends. -/
theorem told_unless_overtaken (context : Context) (subsystems : List String)
    (offer : ChannelOffer) (awaited : Bool) (earlier later : List SessionAct) (reader : Nat)
    (look : SessionAct)
    (nothing : ((onOffer context subsystems offer awaited).run earlier).FindsNothing reader look)
    (asleep : ∀ act ∈ later, act.reader? ≠ some reader) :
    let before := (onOffer context subsystems offer awaited).run (earlier ++ [look])
    let input := (before.run later).channel.input
    ((∀ first act rest other, later = first ++ act :: rest →
        ¬(before.run first).FindsNothing other act) →
      reader ∈ input.woken ∨ input.Dry) ∧
    ∀ first act rest other, later = first ++ act :: rest →
      (before.run first).FindsNothing other act →
      reader ∉ (before.run first).channel.input.woken →
      reader ∉ input.woken := by
  intro before input
  have alert : before.channel.input.Alert :=
    alert_run (Inlet.Alert.ofOffer offer awaited) (earlier ++ [look])
  have looked : before = ((onOffer context subsystems offer awaited).run earlier).step look :=
    run_snoc _ _ _
  have minds : before.channel.input.Minds reader := looked ▸ minds_of_findsNothing nothing
  constructor
  · intro undisturbed
    rcases minds_run minds asleep undisturbed with kept | told
    · exact .inr ((alert_run alert later).dry reader kept)
    · exact .inl told
  · intro first act rest other split found untold told
    subst split
    have forgotten : ¬((before.run first).step act).channel.input.Minds reader :=
      not_minds_of_findsNothing found
        (asleep act (List.mem_append_right _ List.mem_cons_self)) untold
    have stays : ¬(((before.run first).step act).run rest).channel.input.Minds reader :=
      not_minds_run forgotten fun act member =>
        asleep act (List.mem_append_right _ (List.mem_cons_of_mem _ member))
    have whole : before.run (first ++ act :: rest) = ((before.run first).step act).run rest :=
      runFrom_append step before first (act :: rest)
    exact stays (whole ▸ .inr told)

/-- Two holders wait, one after the other, and the input ends: the second is told, and the first,
which would read the end if it looked, is not. -/
theorem told_unless_overtaken_of_two :
    let start := onOffer default [] ⟨"session", ByteArray.empty⟩ true
    let later : List SessionAct := [.input (.receive 2), .input .dropSender]
    let before := start.run ([] ++ [.input (.receive 1)])
    let alone := start.run ([.input (.receive 1)] ++ [.input (.receive 2)])
    (start.FindsNothing 1 (.input (.receive 1)) ∧ (∀ act ∈ later, act.reader? ≠ some 1)) ∧
      (before.FindsNothing 2 (.input (.receive 2)) ∧ 1 ∉ before.channel.input.woken) ∧
      1 ∉ (before.run later).channel.input.woken ∧
      (2 ∈ (alone.run [.input .dropSender]).channel.input.woken ∨
        (alone.run [.input .dropSender]).channel.input.Dry) := by
  intro start later before alone
  have first : start.FindsNothing 1 (.input (.receive 1)) := ⟨_, rfl, rfl, rfl⟩
  have second : before.FindsNothing 2 (.input (.receive 2)) := ⟨_, rfl, rfl, rfl⟩
  have asleep : ∀ act ∈ later, act.reader? ≠ some 1 := by decide
  refine ⟨⟨first, asleep⟩, ⟨second, by decide⟩, ?_, ?_⟩
  · exact (told_unless_overtaken default [] ⟨"session", ByteArray.empty⟩ true [] later 1
      (.input (.receive 1)) first asleep).2 [] (.input (.receive 2)) [.input .dropSender] 2 rfl
      second (by decide)
  · refine (told_unless_overtaken default [] ⟨"session", ByteArray.empty⟩ true
      [.input (.receive 1)] [.input .dropSender] 2 (.input (.receive 2)) second
      (by decide)).1 ?_
    intro before act rest other split found
    obtain ⟨look, rfl, nothing, -⟩ := found
    cases before with
    | nil =>
        obtain rfl : InletAct.dropSender = look := SessionAct.input.inj (List.cons.inj split).1
        exact absurd nothing nofun
    | cons head tail => exact absurd (List.cons.inj split).2 (by simp)

/-- Two holders of one session wait for input, one after the other. When the input ends nobody is
told but the second; the first, which found nothing and has not looked since, sleeps on. -/
theorem sleeps_beside_end :
    let start := onOffer default [] ⟨"session", ByteArray.empty⟩ true
    let session := start.run
      [.input (.receive 1), .input (.receive 2), .input .dropSender, .input (.receive 2)]
    start.FindsNothing 1 (.input (.receive 1)) ∧
      session.channel.input.woken = [] ∧ session.channel.input.waker = none ∧
      session.channel.input.box.ended = true := by
  intro start session
  exact ⟨⟨_, rfl, rfl, rfl⟩, by decide, by decide, by decide⟩

end Session

end SshServer
