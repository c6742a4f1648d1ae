import Mathlib.Algebra.GroupWithZero.Nat
import SshServer.Channel.Credit

/-!
Contract: no operation on a supply of credit loses or makes any.

Owns: the conditions under which a supply is fair, what every operation does to the total, to the
requests under way and to these conditions, and the total as a sum over the requests.
Does not own: what the credit is spent on (`Proofs.Output.Window`).

A request is named by its ticket. The laws that remove a request speak of all its traces; that there
is one trace for each ticket is a condition that the owner of the tickets keeps.
-/

namespace SshServer

/-- A waiting request by its ticket and the amount it asks for. -/
def CreditWaiter.demand (waiter : CreditWaiter) : Nat × Nat :=
  (waiter.ticket, waiter.needed)

namespace Credit

/-- The conditions that every operation keeps: a request waits only while it lacks something, and
nothing is free while somebody waits. -/
structure Fair (credit : Credit) : Prop where
  lacking : ∀ waiter ∈ credit.waiters, waiter.held < waiter.needed
  spent : credit.waiters ≠ [] → credit.free = 0

/-- The requests under way, waiting or filled, each with the amount it asks for. -/
def demands (credit : Credit) : List (Nat × Nat) :=
  credit.waiters.map CreditWaiter.demand ++ credit.granted

/-! ### Sums -/

theorem heldIn_eq_sum (waiters : List CreditWaiter) :
    heldIn waiters = (waiters.map CreditWaiter.held).sum := by
  induction waiters with
  | nil => rfl
  | cons waiter rest inductionHypothesis =>
      rw [heldIn, inductionHypothesis, List.map_cons, List.sum_cons]

theorem grantedIn_eq_sum (grants : List (Nat × Nat)) :
    grantedIn grants = (grants.map Prod.snd).sum := by
  induction grants with
  | nil => rfl
  | cons grant rest inductionHypothesis =>
      rw [grantedIn, inductionHypothesis, List.map_cons, List.sum_cons]

theorem grantedIn_append (first second : List (Nat × Nat)) :
    grantedIn (first ++ second) = grantedIn first + grantedIn second := by
  simp only [grantedIn_eq_sum, List.map_append, List.sum_append]

theorem heldIn_append (first second : List CreditWaiter) :
    heldIn (first ++ second) = heldIn first + heldIn second := by
  simp only [heldIn_eq_sum, List.map_append, List.sum_append]

/-- A sum splits into what meets a condition and what does not. -/
theorem sum_filter_add_sum_filter_not {α : Type} (items : List α) (amount : α → Nat)
    (condition : α → Bool) :
    ((items.filter fun item => !condition item).map amount).sum +
        ((items.filter condition).map amount).sum = (items.map amount).sum := by
  induction items with
  | nil => rfl
  | cons item rest inductionHypothesis =>
      rw [List.map_cons, List.sum_cons, ← inductionHypothesis, List.filter_cons, List.filter_cons]
      cases condition item with
      | true => simp only [Bool.not_true, Bool.false_eq_true, if_false, if_true, List.map_cons,
          List.sum_cons]; omega
      | false => simp only [Bool.not_false, Bool.false_eq_true, if_false, if_true, List.map_cons,
          List.sum_cons]; omega

/-- A sum over keys of what belongs to each key is the sum over everything, provided that the keys
are distinct and every item belongs to one of them. -/
theorem sum_by_key {α : Type} (key amount : α → Nat) (keys : List Nat) (distinct : keys.Nodup)
    (items : List α) (complete : ∀ item ∈ items, key item ∈ keys) :
    (keys.map fun k => ((items.filter fun item => key item == k).map amount).sum).sum =
      (items.map amount).sum := by
  induction keys generalizing items with
  | nil =>
      cases items with
      | nil => rfl
      | cons item rest => exact absurd (complete item List.mem_cons_self) (List.not_mem_nil)
  | cons k rest inductionHypothesis =>
      obtain ⟨absent, distinctRest⟩ := List.nodup_cons.1 distinct
      -- The items of the first key are set aside; the others all belong to the remaining keys.
      let others := items.filter fun item => !(key item == k)
      have othersComplete : ∀ item ∈ others, key item ∈ rest := by
        intro item member
        obtain ⟨inItems, notFirst⟩ := List.mem_filter.1 member
        rcases List.mem_cons.1 (complete item inItems) with isFirst | inRest
        · simp [isFirst] at notFirst
        · exact inRest
      have sameParts : ∀ other ∈ rest,
          (items.filter fun item => key item == other) =
            others.filter fun item => key item == other := by
        intro other member
        rw [List.filter_filter]
        apply List.filter_congr
        intro item _
        by_cases isOther : key item = other
        · have different : other ≠ k := by
            intro same
            exact absent (same ▸ member)
          simp [isOther, different]
        · simp [isOther]
      rw [List.map_cons, List.sum_cons, ← sum_filter_add_sum_filter_not items amount
        (fun item => key item == k), ← inductionHypothesis distinctRest others othersComplete,
        Nat.add_comm]
      congr 1
      apply congrArg List.sum
      apply List.map_congr_left
      intro other member
      rw [sameParts other member]

/-! ### Returning credit -/

section Assign

variable (amount : Nat) (waiters : List CreditWaiter)

theorem assign_of_short {waiter : CreditWaiter} (short : waiter.held + amount < waiter.needed) :
    assign amount (waiter :: waiters) =
      (0, [], { waiter with held := waiter.held + amount } :: waiters) := by
  rw [assign, if_pos short]

theorem assign_of_enough {waiter : CreditWaiter} (enough : ¬waiter.held + amount < waiter.needed) :
    assign amount (waiter :: waiters) =
      ((assign (amount - (waiter.needed - waiter.held)) waiters).1,
        waiter.demand :: (assign (amount - (waiter.needed - waiter.held)) waiters).2.1,
        (assign (amount - (waiter.needed - waiter.held)) waiters).2.2) := by
  rw [assign, if_neg enough]
  rfl

/-- What is handed out is what was returned. -/
theorem assign_total (lacking : ∀ waiter ∈ waiters, waiter.held < waiter.needed) :
    (assign amount waiters).1 + grantedIn (assign amount waiters).2.1 +
      heldIn (assign amount waiters).2.2 = amount + heldIn waiters := by
  induction waiters generalizing amount with
  | nil => rfl
  | cons waiter rest inductionHypothesis =>
      have waiterLacks := lacking waiter List.mem_cons_self
      by_cases short : waiter.held + amount < waiter.needed
      · rw [assign_of_short amount rest short]
        simp only [grantedIn, heldIn]
        omega
      · have restTotal := inductionHypothesis (amount - (waiter.needed - waiter.held))
          (fun other member => lacking other (List.mem_cons_of_mem _ member))
        rw [assign_of_enough amount rest short]
        simp only [grantedIn, heldIn, CreditWaiter.demand]
        omega

theorem assign_lacking (lacking : ∀ waiter ∈ waiters, waiter.held < waiter.needed) :
    ∀ waiter ∈ (assign amount waiters).2.2, waiter.held < waiter.needed := by
  induction waiters generalizing amount with
  | nil => exact fun _ member => absurd member List.not_mem_nil
  | cons waiter rest inductionHypothesis =>
      have restLacking : ∀ other ∈ rest, other.held < other.needed :=
        fun other member => lacking other (List.mem_cons_of_mem _ member)
      by_cases short : waiter.held + amount < waiter.needed
      · rw [assign_of_short amount rest short]
        intro other member
        rcases List.mem_cons.1 member with isFirst | inRest
        · rw [isFirst]
          exact short
        · exact restLacking other inRest
      · rw [assign_of_enough amount rest short]
        exact inductionHypothesis _ restLacking

/-- Something is left over only once everybody is filled. -/
theorem assign_spent (stillWaiting : (assign amount waiters).2.2 ≠ []) :
    (assign amount waiters).1 = 0 := by
  induction waiters generalizing amount with
  | nil => exact absurd rfl stillWaiting
  | cons waiter rest inductionHypothesis =>
      by_cases short : waiter.held + amount < waiter.needed
      · rw [assign_of_short amount rest short]
      · rw [assign_of_enough amount rest short] at stillWaiting ⊢
        exact inductionHypothesis _ stillWaiting

/-- Nobody's request is lost or changed, only filled, and in order. -/
theorem assign_demands :
    (assign amount waiters).2.1 ++ (assign amount waiters).2.2.map CreditWaiter.demand =
      waiters.map CreditWaiter.demand := by
  induction waiters generalizing amount with
  | nil => rfl
  | cons waiter rest inductionHypothesis =>
      by_cases short : waiter.held + amount < waiter.needed
      · rw [assign_of_short amount rest short]
        rfl
      · rw [assign_of_enough amount rest short, List.cons_append, inductionHypothesis,
          List.map_cons]

theorem assign_nil_of_nil (nobody : waiters = []) : (assign amount waiters).2.2 = [] := by
  rw [nobody]
  rfl

end Assign

section Laws

variable {credit after : Credit} {ticket amount needed : Nat}

theorem Fair.release_total (fair : credit.Fair) (amount : Nat) :
    (credit.release amount).total = credit.total + amount := by
  have handedOut := assign_total amount credit.waiters fair.lacking
  show credit.free + (assign amount credit.waiters).1 + heldIn (assign amount credit.waiters).2.2 +
    grantedIn (credit.granted ++ (assign amount credit.waiters).2.1) = _
  rw [grantedIn_append, total]
  omega

theorem Fair.release (fair : credit.Fair) (amount : Nat) : (credit.release amount).Fair := by
  constructor
  · exact assign_lacking amount credit.waiters fair.lacking
  · intro stillWaiting
    have somebodyWaited : credit.waiters ≠ [] := by
      intro nobody
      exact stillWaiting (assign_nil_of_nil amount credit.waiters nobody)
    show credit.free + (assign amount credit.waiters).1 = 0
    rw [fair.spent somebodyWaited, assign_spent amount credit.waiters stillWaiting]

theorem release_demands (credit : Credit) (amount : Nat) :
    (credit.release amount).demands.Perm credit.demands := by
  show ((assign amount credit.waiters).2.2.map CreditWaiter.demand ++
    (credit.granted ++ (assign amount credit.waiters).2.1)).Perm
      (credit.waiters.map CreditWaiter.demand ++ credit.granted)
  rw [← assign_demands amount credit.waiters]
  refine List.Perm.trans ?_ (List.perm_append_comm.append_right _)
  rw [List.append_assoc]
  exact List.perm_append_comm.append_left _

/-! ### Asking for credit -/

/-- A request that is met at once takes what it asked for, and nothing else changes. -/
theorem acquire_granted (granted : credit.acquire ticket needed = (after, .granted)) :
    needed ≤ credit.free ∧ after = { credit with free := credit.free - needed } := by
  unfold acquire at granted
  split at granted
  · simp at granted
  · split at granted
    next atOnce =>
      simp only [Prod.mk.injEq, and_true] at granted
      refine ⟨?_, granted.symm⟩
      rcases atOnce with isNone | ⟨-, enough⟩
      · omega
      · exact enough
    · simp at granted

/-- A request that is not met at once takes what is free, and waits for more. -/
theorem acquire_waiting (waits : credit.acquire ticket needed = (after, .waiting)) :
    (credit.waiters = [] → credit.free < needed) ∧ 0 < needed ∧
      after = { credit with
        free := 0
        waiters := credit.waiters ++ [⟨ticket, needed, credit.free⟩] } := by
  unfold acquire at waits
  split at waits
  · simp at waits
  · split at waits
    · simp at waits
    next notAtOnce =>
      simp only [Prod.mk.injEq, and_true] at waits
      refine ⟨?_, ?_, waits.symm⟩
      · intro nobody
        by_cases enough : needed ≤ credit.free
        · exact absurd (Or.inr ⟨nobody, enough⟩) notAtOnce
        · omega
      · by_cases isNone : needed = 0
        · exact absurd (Or.inl isNone) notAtOnce
        · omega

theorem acquire_closed (ended : credit.acquire ticket needed = (after, .closed)) :
    credit.closed = true ∧ after = credit := by
  unfold acquire at ended
  split at ended
  next isClosed =>
    simp only [Prod.mk.injEq, and_true] at ended
    exact ⟨isClosed, ended.symm⟩
  · split at ended <;> simp at ended

theorem tryAcquire_granted (granted : credit.tryAcquire needed = (after, .granted)) :
    needed ≤ credit.free ∧ after = { credit with free := credit.free - needed } := by
  unfold tryAcquire at granted
  split at granted
  · simp at granted
  · split at granted
    next enough =>
      simp only [Prod.mk.injEq, and_true] at granted
      exact ⟨enough, granted.symm⟩
    · simp at granted

theorem Fair.take (fair : credit.Fair) (amount : Nat) :
    ({ credit with free := credit.free - amount } : Credit).Fair := by
  refine ⟨fair.lacking, ?_⟩
  intro somebodyWaits
  show credit.free - amount = 0
  rw [fair.spent somebodyWaits, Nat.zero_sub]

theorem take_total (enough : amount ≤ credit.free) :
    ({ credit with free := credit.free - amount } : Credit).total + amount = credit.total := by
  simp only [total]
  omega

theorem Fair.wait (fair : credit.Fair) (waits : credit.acquire ticket needed = (after, .waiting)) :
    after.Fair ∧ after.total = credit.total ∧
      after.demands.Perm (credit.demands ++ [(ticket, needed)]) := by
  obtain ⟨shortage, positive, rfl⟩ := acquire_waiting waits
  have lacks : credit.free < needed := by
    by_cases nobody : credit.waiters = []
    · exact shortage nobody
    · rw [fair.spent nobody]
      exact positive
  refine ⟨⟨?_, fun _ => rfl⟩, ?_, ?_⟩
  · intro waiter member
    rcases List.mem_append.1 member with before | isNew
    · exact fair.lacking waiter before
    · rw [List.mem_singleton.1 isNew]
      exact lacks
  · simp only [total, heldIn_append, heldIn]
    omega
  · simp only [demands, List.map_append, List.map_cons, List.map_nil, CreditWaiter.demand,
      List.append_assoc]
    exact List.perm_append_comm.append_left _

/-! ### Giving up and taking up -/

theorem forget_demands (credit : Credit) (ticket : Nat) :
    (credit.forget ticket).demands = credit.demands.filter fun demand => demand.1 != ticket := by
  simp only [demands, forget, List.filter_append, List.filter_map]
  rfl

theorem Fair.forget (fair : credit.Fair) (ticket : Nat) : (credit.forget ticket).Fair := by
  constructor
  · intro waiter member
    exact fair.lacking waiter (List.mem_filter.1 member).1
  · intro somebodyWaits
    apply fair.spent
    intro nobody
    exact somebodyWaits (by simp only [Credit.forget, nobody, List.filter_nil])

/-- What a removed request held is all that goes with it. -/
theorem forget_total (credit : Credit) (ticket : Nat) :
    (credit.forget ticket).total + credit.heldBy ticket = credit.total := by
  have waiting := sum_filter_add_sum_filter_not credit.waiters CreditWaiter.held
    (fun waiter => waiter.ticket == ticket)
  have filled := sum_filter_add_sum_filter_not credit.granted Prod.snd
    (fun grant => grant.1 == ticket)
  simp only [total, heldBy, forget, heldIn_eq_sum, grantedIn_eq_sum, bne]
  omega

theorem Fair.cancel (fair : credit.Fair) (ticket : Nat) : (credit.cancel ticket).Fair :=
  (fair.forget ticket).release _

theorem Fair.cancel_total (fair : credit.Fair) (ticket : Nat) :
    (credit.cancel ticket).total = credit.total := by
  rw [Credit.cancel, (fair.forget ticket).release_total, forget_total]

theorem cancel_demands (credit : Credit) (ticket : Nat) :
    (credit.cancel ticket).demands.Perm
      (credit.demands.filter fun demand => demand.1 != ticket) := by
  rw [← forget_demands]
  exact release_demands _ _

theorem resume_closed (ended : credit.resume ticket = (after, .closed)) :
    credit.closed = true ∧ after = credit.forget ticket := by
  unfold resume at ended
  split at ended
  next isClosed =>
    simp only [Prod.mk.injEq, and_true] at ended
    exact ⟨isClosed, ended.symm⟩
  · split at ended <;> simp at ended

/-- A request that is taken up was filled. -/
theorem resume_granted (granted : credit.resume ticket = (after, .granted)) :
    (∃ amount, (ticket, amount) ∈ credit.granted) ∧ after = credit.forget ticket := by
  unfold resume at granted
  split at granted
  · simp at granted
  · split at granted
    next filled =>
      simp only [Prod.mk.injEq, and_true] at granted
      refine ⟨?_, granted.symm⟩
      obtain ⟨⟨owner, amount⟩, member, same⟩ := List.any_eq_true.1 filled
      have isOwner : owner = ticket := by simpa using same
      exact ⟨amount, isOwner ▸ member⟩
    · simp at granted

end Laws

/-! ### Requests with tickets of their own -/

/-- Among items with distinct keys, one item is all that belongs to its key. -/
theorem filter_key_eq_singleton {items : List (Nat × Nat)} (distinct : (items.map Prod.fst).Nodup)
    {key amount : Nat} (member : (key, amount) ∈ items) :
    (items.filter fun item => item.1 == key) = [(key, amount)] := by
  induction items with
  | nil => exact absurd member List.not_mem_nil
  | cons item rest inductionHypothesis =>
      rw [List.map_cons, List.nodup_cons] at distinct
      rcases List.mem_cons.1 member with isFirst | inRest
      · subst isFirst
        have noneInRest : (rest.filter fun item => item.1 == key) = [] := by
          rw [List.filter_eq_nil_iff]
          intro other otherMember same
          have sameKey : other.1 = key := by simpa using same
          apply distinct.1
          exact List.mem_map.2 ⟨other, otherMember, sameKey⟩
        rw [List.filter_cons_of_pos (by simp), noneInRest]
      · have different : item.1 ≠ key := by
          intro same
          exact distinct.1 (List.mem_map.2 ⟨(key, amount), inRest, same.symm⟩)
        rw [List.filter_cons_of_neg (by simpa using different)]
        exact inductionHypothesis distinct.2 inRest

/-- A filled request with a ticket of its own holds what it asked for, and nothing more. -/
theorem heldBy_of_granted {credit : Credit} {ticket amount : Nat}
    (distinct : (credit.demands.map Prod.fst).Nodup)
    (filled : (ticket, amount) ∈ credit.granted) : credit.heldBy ticket = amount := by
  have alone := filter_key_eq_singleton distinct
    (List.mem_append_right (credit.waiters.map CreditWaiter.demand) filled)
  rw [demands, List.filter_append] at alone
  have amongGranted : (ticket, amount) ∈ credit.granted.filter fun grant => grant.1 == ticket := by
    rw [List.mem_filter]
    exact ⟨filled, by simp⟩
  -- The one trace is the grant, so no waiter bears the ticket.
  have lengths := congrArg List.length alone
  have grantedPart := List.length_pos_of_mem amongGranted
  rw [List.length_append, List.length_singleton] at lengths
  have noWaiter : ((credit.waiters.map CreditWaiter.demand).filter fun demand =>
      demand.1 == ticket) = [] := List.eq_nil_of_length_eq_zero (by omega)
  rw [noWaiter, List.nil_append] at alone
  have noWaiterHolds : (credit.waiters.filter fun waiter => waiter.ticket == ticket) = [] := by
    rw [List.filter_map, List.map_eq_nil_iff] at noWaiter
    exact noWaiter
  rw [heldBy, noWaiterHolds, alone]
  simp only [heldIn, grantedIn]
  omega

/-- Where the tickets are known, all that is not free is held under one of them. -/
theorem total_eq_free_add_held (credit : Credit) {tickets : List Nat} (distinct : tickets.Nodup)
    (complete : ∀ demand ∈ credit.demands, demand.1 ∈ tickets) :
    credit.free + (tickets.map credit.heldBy).sum = credit.total := by
  have waiting := sum_by_key CreditWaiter.ticket CreditWaiter.held tickets distinct credit.waiters
    (fun waiter member => complete waiter.demand
      (List.mem_append_left _ (List.mem_map_of_mem member)))
  have filled := sum_by_key Prod.fst Prod.snd tickets distinct credit.granted
    (fun grant member => complete grant (List.mem_append_right _ member))
  have split : (tickets.map credit.heldBy).sum =
      (tickets.map fun ticket =>
        ((credit.waiters.filter fun waiter => waiter.ticket == ticket).map CreditWaiter.held).sum).sum +
      (tickets.map fun ticket =>
        ((credit.granted.filter fun grant => grant.1 == ticket).map Prod.snd).sum).sum := by
    clear complete waiting filled
    induction tickets with
    | nil => rfl
    | cons ticket rest inductionHypothesis =>
        simp only [List.map_cons, List.sum_cons, inductionHypothesis (List.nodup_cons.1 distinct).2,
          heldBy, heldIn_eq_sum, grantedIn_eq_sum]
        omega
  rw [split, waiting, filled, total, heldIn_eq_sum, grantedIn_eq_sum, Nat.add_assoc]

end Credit

end SshServer
