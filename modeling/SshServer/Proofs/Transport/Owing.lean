import Mathlib.Data.List.Perm.Basic
import SshServer.Proofs.Transport.Channels

/-!
Contract: what a channel owes its transport for the requests that were made on it.

Owns: the requests on a channel that want an answer and have none; what settles a request; and what
becomes of a debt when a handler takes a request, answers or drops it, or leaves the stream.
Does not own: which requests are made, and what the peer is told (`Proofs.Transport.Answers`).

The transport makes the next request only when it knows the answer to the last, so that at most one
request at a time wants an answer. A handler that drops it, or the stream that it is in, refuses it.
-/

namespace SshServer

/-! ### What a channel owes -/

/-- The requests that were taken on the channel at a place, of all that were. -/
def heldAt (held : List (Nat × Request)) (place : Nat) : List Request :=
  (held.filter fun entry => entry.1 == place).map Prod.snd

theorem heldAt_append (held more : List (Nat × Request)) (place : Nat) :
    heldAt (held ++ more) place = heldAt held place ++ heldAt more place := by
  rw [heldAt, List.filter_append, List.map_append]
  rfl

theorem heldAt_singleton (place other : Nat) (request : Request) :
    heldAt [(place, request)] other = if place = other then [request] else [] := by
  simp only [heldAt, List.filter_cons, List.filter_nil, beq_iff_eq]
  split <;> rfl

/-- A request that a handler is done with was taken on its channel, and on no other. -/
theorem heldAt_eraseIdx {held : List (Nat × Request)} {index place : Nat} {request : Request}
    (found : held[index]? = some (place, request)) (other : Nat) :
    (heldAt held other).Perm
      ((if place = other then [request] else []) ++ heldAt (held.eraseIdx index) other) := by
  obtain ⟨inRange, isEntry⟩ := List.getElem?_eq_some_iff.1 found
  have perm : held.Perm ([(place, request)] ++ held.eraseIdx index) := by
    have isPerm := List.getElem_cons_eraseIdx_perm inRange
    rw [isEntry] at isPerm
    exact isPerm.symm
  rw [← heldAt_singleton, ← heldAt_append]
  exact (perm.filter _).map _

/-- The requests that want an answer. -/
def asking (requests : List Request) : List Request :=
  requests.filter fun request => request.reply.isSome

theorem asking_append (first later : List Request) :
    asking (first ++ later) = asking first ++ asking later :=
  List.filter_append ..

theorem asking_singleton (request : Request) :
    asking [request] = if request.reply.isSome then [request] else [] := by
  simp only [asking, List.filter_cons, List.filter_nil]

/-- Only a request that wants an answer is refused. -/
theorem refusals_eq_asking (requests : List Request) :
    refusals requests = refusals (asking requests) := by
  induction requests with
  | nil => rfl
  | cons request rest inductionHypothesis =>
      have split : refusals (request :: rest) = History.reply request false ++ refusals rest :=
        List.flatMap_cons
      rw [split, inductionHypothesis, asking, asking, List.filter_cons]
      cases reply : request.reply with
      | none =>
          rw [History.reply, reply]
          rfl
      | some number =>
          rw [Option.isSome_some, if_pos rfl, refusals, refusals, List.flatMap_cons]

/-- What a handler has answered, with the places of the channels. -/
abbrev Verdicts :=
  List (Nat × Request × Bool)

/-- A request is settled: its handler has answered it, or it was refused without an answer, because
its stream was no longer served. -/
def Settled (verdicts : Verdicts) (place : Nat) (request : Request) (told served : Bool) : Prop :=
  (place, request, told) ∈ verdicts ∨
    told = false ∧ served = false ∧ ∀ verdict, (place, request, verdict) ∉ verdicts

namespace RequestStream

/-- What a channel owes its transport: nothing, or the answer to one request. -/
inductive Owes (verdicts : Verdicts) (place : Nat) (stream : RequestStream) (held : List Request) :
    Option Request → Prop where
  | nothing (noOpen : asking (stream.box.items.toList ++ held) = [])
      (noAnswer : stream.answers = []) : Owes verdicts place stream held none
  | openRequest (request : Request)
      (isOpen : (asking (stream.box.items.toList ++ held)).Perm [request])
      (noAnswer : stream.answers = [])
      (noVerdict : ∀ verdict, (place, request, verdict) ∉ verdicts) :
      Owes verdicts place stream held (some request)
  | answered (request : Request) (number : Nat) (verdict : Bool)
      (noOpen : asking (stream.box.items.toList ++ held) = [])
      (reply : request.reply = some number) (answer : stream.answers = [(number, verdict)])
      (settled : Settled verdicts place request verdict stream.box.attached) :
      Owes verdicts place stream held (some request)

section Owes

variable {verdicts : Verdicts} {place : Nat} {stream : RequestStream} {held : List Request}
  {awaited : Option Request}

/-- What is owed does not depend on who of the handlers has a request, or on the requests that want
no answer. -/
theorem Owes.of_perm (owes : stream.Owes verdicts place held awaited) {after : RequestStream}
    {heldAfter : List Request}
    (isOpen : (asking (after.box.items.toList ++ heldAfter)).Perm
      (asking (stream.box.items.toList ++ held)))
    (answers : after.answers = stream.answers)
    (attached : after.box.attached = stream.box.attached) :
    after.Owes verdicts place heldAfter awaited := by
  cases owes with
  | nothing noOpen noAnswer =>
      rw [noOpen] at isOpen
      exact .nothing isOpen.eq_nil (answers.trans noAnswer)
  | openRequest request isAsked noAnswer noVerdict =>
      exact .openRequest request (isOpen.trans isAsked) (answers.trans noAnswer) noVerdict
  | answered request number verdict noOpen reply answer settled =>
      rw [noOpen] at isOpen
      refine .answered request number verdict isOpen.eq_nil reply (answers.trans answer) ?_
      rw [attached]
      exact settled

/-- A handler that leaves its requests refuses those that it has not taken. -/
theorem Owes.detach (owes : stream.Owes verdicts place held awaited) :
    stream.detach.Owes verdicts place held awaited := by
  have answers : stream.detach.answers =
      stream.answers ++ refusals (asking stream.box.items.toList) := by
    rw [← refusals_eq_asking]
    exact stream.answers_foldl_discard _
  have rest : asking (stream.detach.box.items.toList ++ held) = asking held := rfl
  cases owes with
  | nothing noOpen noAnswer =>
      rw [asking_append, List.append_eq_nil_iff] at noOpen
      rw [noOpen.1, noAnswer] at answers
      exact .nothing (rest.trans noOpen.2) answers
  | openRequest request isOpen noAnswer noVerdict =>
      rw [asking_append, List.perm_singleton] at isOpen
      rcases List.append_eq_singleton_iff.1 isOpen with ⟨noItem, isHeld⟩ | ⟨isItem, noneHeld⟩
      · rw [noItem, noAnswer] at answers
        refine .openRequest request ?_ answers noVerdict
        rw [rest, isHeld]
      · rw [isItem, noAnswer] at answers
        have wants : request.reply.isSome = true := by
          have member : request ∈ asking stream.box.items.toList := by
            rw [isItem]
            exact List.mem_singleton_self request
          exact (List.mem_filter.1 member).2
        obtain ⟨number, reply⟩ := Option.isSome_iff_exists.1 wants
        refine .answered request number false (rest.trans noneHeld) reply ?_
          (.inr ⟨rfl, rfl, noVerdict⟩)
        rw [answers, List.nil_append, refusals, List.flatMap_cons, History.reply, reply]
        rfl
  | answered request number verdict noOpen reply answer settled =>
      rw [asking_append, List.append_eq_nil_iff] at noOpen
      rw [noOpen.1, answer] at answers
      refine .answered request number verdict (rest.trans noOpen.2) reply answers ?_
      exact settled.imp_right fun refused => ⟨refused.1, rfl, refused.2.2⟩

/-- The requests that are left when a handler is done with one. -/
theorem asking_perm_cons {held rest : List Request} {request : Request}
    (isHeld : held.Perm ([request] ++ rest)) (items : List Request) :
    (asking (items ++ held)).Perm (asking [request] ++ asking (items ++ rest)) := by
  have moved : (items ++ held).Perm ([request] ++ (items ++ rest)) :=
    (isHeld.append_left items).trans List.perm_middle
  rw [← asking_append]
  exact moved.filter _

/-- A request that wants no answer makes no difference. -/
theorem Owes.settle_unasked (owes : stream.Owes verdicts place held awaited) {request : Request}
    {rest : List Request} (isHeld : held.Perm ([request] ++ rest)) (unasked : request.reply = none)
    (verdict : Option Bool) :
    (stream.settle request verdict).Owes verdicts place rest awaited := by
  have same : stream.settle request verdict = stream := by
    cases verdict with
    | none | some verdict =>
        simp only [settle, discard, answer, unasked]
  have isOpen := asking_perm_cons isHeld stream.box.items.toList
  rw [asking_singleton, unasked] at isOpen
  rw [same]
  exact owes.of_perm isOpen.symm rfl rfl

/-- A request that wants an answer is the one that is owed, and nobody has answered it before. -/
theorem Owes.settle_asked (owes : stream.Owes verdicts place held awaited) {request : Request}
    {rest : List Request} (isHeld : held.Perm ([request] ++ rest)) {number : Nat}
    (reply : request.reply = some number) (verdict : Option Bool) :
    awaited = some request ∧ (∀ other, (place, request, other) ∉ verdicts) ∧
      (stream.settle request verdict).Owes
        (verdicts ++ [(place, request, verdict.getD false)]) place rest awaited := by
  have isOpen := asking_perm_cons isHeld stream.box.items.toList
  rw [asking_singleton, reply, Option.isSome_some, if_pos rfl] at isOpen
  have answers : (stream.settle request verdict).answers =
      stream.answers ++ [(number, verdict.getD false)] := by
    cases verdict with
    | none | some verdict => simp only [settle, discard, answer, reply, Option.getD]
  cases owes with
  | nothing noOpen =>
      rw [noOpen] at isOpen
      exact absurd isOpen.symm.eq_nil (List.cons_ne_nil _ _)
  | answered other otherNumber otherVerdict noOpen =>
      rw [noOpen] at isOpen
      exact absurd isOpen.symm.eq_nil (List.cons_ne_nil _ _)
  | openRequest other isAsked noAnswer noVerdict =>
      obtain ⟨rfl, noneLeft⟩ := List.cons.inj (List.perm_singleton.1 (isOpen.symm.trans isAsked))
      rw [noAnswer] at answers
      refine ⟨rfl, noVerdict, .answered request number (verdict.getD false) ?_ reply answers
        (.inl (List.mem_append_right _ (List.mem_singleton_self _)))⟩
      rw [box_settle]
      exact noneLeft

/-- An answer to a request on another channel makes no difference. -/
theorem Owes.of_verdict (owes : stream.Owes verdicts place held awaited) {other : Nat}
    (isOther : other ≠ place) (entry : Request × Bool) :
    stream.Owes (verdicts ++ [(other, entry)]) place held awaited := by
  have unchanged : ∀ request verdict, (place, request, verdict) ∉ verdicts →
      (place, request, verdict) ∉ verdicts ++ [(other, entry)] := by
    intro request verdict absent member
    rcases List.mem_append.1 member with before | isNew
    · exact absent before
    · exact isOther (Prod.mk.inj (List.mem_singleton.1 isNew)).1.symm
  cases owes with
  | nothing noOpen noAnswer => exact .nothing noOpen noAnswer
  | openRequest request isOpen noAnswer noVerdict =>
      exact .openRequest request isOpen noAnswer fun verdict =>
        unchanged request verdict (noVerdict verdict)
  | answered request number verdict noOpen reply answer settled =>
      refine .answered request number verdict noOpen reply answer ?_
      rcases settled with given | ⟨isFalse, unserved, noVerdict⟩
      · exact .inl (List.mem_append_left _ given)
      · exact .inr ⟨isFalse, unserved, fun verdict => unchanged request verdict (noVerdict verdict)⟩

end Owes

end RequestStream

namespace Transport

/-- What each channel owes, by its place. -/
def Owing (transport : Transport) (held : List (Nat × Request)) (verdicts : Verdicts)
    (awaited : Nat → Option Request) : Prop :=
  ∀ (place : Nat) (channel : Channel), transport.channels[place]? = some channel →
    channel.requests.Owes verdicts place (heldAt held place) (awaited place)

theorem Owing.set {transport : Transport} {held heldAfter : List (Nat × Request)}
    {verdicts verdictsAfter : Verdicts} {awaited awaitedAfter : Nat → Option Request}
    (owing : transport.Owing held verdicts awaited) {place : Nat} {before after : Channel}
    (there : transport.channels[place]? = some before)
    (own : after.requests.Owes verdictsAfter place (heldAt heldAfter place) (awaitedAfter place))
    (elsewhere : ∀ other ≠ place, ∀ channel : Channel,
      channel.requests.Owes verdicts other (heldAt held other) (awaited other) →
      channel.requests.Owes verdictsAfter other (heldAt heldAfter other) (awaitedAfter other)) :
    (transport.setChannel place after).Owing heldAfter verdictsAfter awaitedAfter := by
  intro other channel isThere
  rw [getElem?_setChannel there] at isThere
  split at isThere
  next same =>
    obtain rfl := Option.some.inj isThere
    exact same ▸ own
  next isOther => exact elsewhere other isOther channel (owing other channel isThere)

end Transport

end SshServer
