/-!
Contract: runs of a system that takes one operation after another.

Owns: the state after a run, what is observed over a run, how either is put together from two parts
of a run, the rule that what every step keeps holds after every run, and where an entry of a history
stands when the history has grown by one.
Does not own: the operations of any system. A system is a step function, and everybody who has a
hand in it, be it a task, a writer or the peer, acts by operations of their own.
-/

namespace SshServer

section Runs

variable {σ α β : Type} (step : σ → α → σ)

/-- The state after a run. -/
def runFrom (state : σ) (acts : List α) : σ :=
  acts.foldl step state

/-- What is observed over a run: the observations of its steps, one after another. -/
def observed (observe : σ → α → List β) : σ → List α → List β
  | _, [] => []
  | state, act :: acts => observe state act ++ observed observe (step state act) acts

theorem runFrom_append (state : σ) (first later : List α) :
    runFrom step state (first ++ later) = runFrom step (runFrom step state first) later :=
  List.foldl_append

theorem runFrom_snoc (state : σ) (acts : List α) (act : α) :
    runFrom step state (acts ++ [act]) = step (runFrom step state acts) act :=
  runFrom_append step state acts [act]

theorem observed_append (observe : σ → α → List β) (state : σ) (first later : List α) :
    observed step observe state (first ++ later) =
      observed step observe state first ++
        observed step observe (runFrom step state first) later := by
  induction first generalizing state with
  | nil => rfl
  | cons act rest inductionHypothesis =>
      rw [List.cons_append, observed, inductionHypothesis, observed, List.append_assoc]
      rfl

theorem observed_snoc (observe : σ → α → List β) (state : σ) (acts : List α) (act : α) :
    observed step observe state (acts ++ [act]) =
      observed step observe state acts ++ observe (runFrom step state acts) act := by
  rw [observed_append, observed, observed, List.append_nil]

/-- What two observers agree on at every step, they agree on over a run. -/
theorem observed_filterMap {γ δ : Type} {first : σ → α → List β} {second : σ → α → List γ}
    (ofFirst : β → Option δ) (ofSecond : γ → Option δ)
    (agree : ∀ state act,
      (first state act).filterMap ofFirst = (second state act).filterMap ofSecond)
    (state : σ) (acts : List α) :
    (observed step first state acts).filterMap ofFirst =
      (observed step second state acts).filterMap ofSecond := by
  induction acts generalizing state with
  | nil => rfl
  | cons act rest inductionHypothesis =>
      rw [observed, observed, List.filterMap_append, List.filterMap_append, agree,
        inductionHypothesis]

/-- What holds at the start and is kept by every step holds after every run. -/
theorem runFrom_induction (holds : σ → Prop)
    (kept : ∀ state act, holds state → holds (step state act)) {state : σ} (start : holds state)
    (acts : List α) : holds (runFrom step state acts) := by
  induction acts generalizing state with
  | nil => exact start
  | cons act rest inductionHypothesis => exact inductionHypothesis (kept state act start)

/-- Where no step of a run shows anything from some kind of state on, and no step leaves that kind,
the run shows nothing. -/
theorem observed_eq_nil {observe : σ → α → List β} (quiet : σ → Prop)
    (kept : ∀ state act, quiet state → quiet (step state act))
    (silent : ∀ state act, quiet state → observe state act = []) {state : σ} (start : quiet state)
    (acts : List α) : observed step observe state acts = [] := by
  induction acts generalizing state with
  | nil => rfl
  | cons act rest inductionHypothesis =>
      rw [observed, silent state act start, inductionHypothesis (kept state act start),
        List.append_nil]

/-- Where everything that a step shows is of some sort, from some kind of state on, and no step
leaves that kind, everything that a run shows is of that sort. -/
theorem forall_observed {observe : σ → α → List β} (kind : σ → Prop) (sort : β → Prop)
    (kept : ∀ state act, kind state → kind (step state act))
    (shows : ∀ state act, kind state → ∀ entry ∈ observe state act, sort entry) {state : σ}
    (start : kind state) (acts : List α) :
    ∀ entry ∈ observed step observe state acts, sort entry := by
  induction acts generalizing state with
  | nil => exact fun _ member => absurd member List.not_mem_nil
  | cons act rest inductionHypothesis =>
      intro entry member
      rcases List.mem_append.1 member with now | later
      · exact shows state act start entry now
      · exact inductionHypothesis (kept state act start) entry later

end Runs

/-- An entry of a history with one more is the last one, or stood there before. -/
theorem split_snoc {α : Type} {entries before after : List α} {last entry : α}
    (split : entries ++ [last] = before ++ entry :: after) :
    entries = before ∧ last = entry ∧ after = [] ∨
      ∃ rest, after = rest ++ [last] ∧ entries = before ++ entry :: rest := by
  rcases List.eq_nil_or_concat after with rfl | ⟨rest, other, rfl⟩
  · obtain ⟨isBefore, isLast⟩ := List.append_inj' split rfl
    exact .inl ⟨isBefore, (List.cons.inj isLast).1, rfl⟩
  · rw [List.concat_eq_append] at split ⊢
    have regrouped : entries ++ [last] = (before ++ entry :: rest) ++ [other] := by
      rw [split, List.append_assoc, List.cons_append]
    obtain ⟨isRest, isLast⟩ := List.append_inj' regrouped rfl
    obtain rfl := (List.cons.inj isLast).1
    exact .inr ⟨rest, rfl, isRest⟩

end SshServer
