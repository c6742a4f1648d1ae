import SshServer.Rehearsal.Outcome

/-!
Contract: the order in which the tasks of a rehearsal go on.

Owns: jobs, which are operations that the script started and that may wait; their repetitions; and
the settling of a stage, which lets whoever can go on do so until nobody can.
Does not own: what a task does. A set of `Rules` says that for each kind of rehearsal.

Only one task runs at a time, and it runs until it has to wait. Of several that can go on, the one
that was granted something first has precedence.
-/

namespace SshServer.Rehearsal

/-- What a task comes to when it runs. -/
inductive Turn (τ : Type) where
  | waits (task : τ)
  | finished (outcome : Outcome)

/-- How the tasks of a rehearsal act on its world. -/
structure Rules (σ τ : Type) where
  /-- Runs the task with a number until it waits or is over. -/
  proceed : Nat → τ → σ → σ × Turn τ
  /-- Whether a task could go on now. -/
  ready : Nat → τ → σ → Bool
  /-- The precedence of a task that can go on; the least value goes first. -/
  rank : Nat → τ → σ → Nat
  /-- A task is given up while it waits. -/
  abort : Nat → τ → σ → σ
  /-- What a task held from its start is given back at its end; receives the task as it started. -/
  retire : Nat → τ → σ → σ
  /-- Lets the world's own tasks go on, if one of them can. -/
  own : σ → Option σ
  /-- Takes out what the library remarked. -/
  takeLog : σ → List String × σ

structure Job (τ : Type) where
  id : Nat
  /-- The task as every repetition starts. -/
  task : τ
  /-- The task as it stands. -/
  phase : τ
  /-- Repetitions that are still to come. -/
  left : Nat
  finished : Nat := 0

/-- A world with the operations that are under way in it. -/
structure Stage (σ τ : Type) where
  world : σ
  jobs : List (Job τ) := []
  done : List (Nat × Outcome) := []

/-- Starts an operation, to be done `repetitions` times (at least once). -/
def Stage.start {σ τ : Type} (stage : Stage σ τ) (id : Nat) (task : τ) (repetitions : Nat) :
    Stage σ τ :=
  { stage with jobs := stage.jobs ++ [⟨id, task, task, repetitions - 1, 0⟩] }

namespace Rules

variable {σ τ : Type} (rules : Rules σ τ)

/-- Runs a job until it waits or its last repetition is over. -/
def run (id : Nat) (task : τ) : (left : Nat) → (phase : τ) → (finished : Nat) → σ →
    σ × (Job τ ⊕ Outcome)
  | left, phase, finished, world =>
    match rules.proceed id phase world with
    | (world, .waits phase) => (world, .inl ⟨id, task, phase, left, finished⟩)
    | (world, .finished outcome) =>
      match left with
      | 0 => (rules.retire id task world, .inr outcome)
      | left + 1 => run id task left task (finished + 1) world

/-- The job that goes on next. -/
def next? (stage : Stage σ τ) : Option (Job τ) :=
  (stage.jobs.filter fun job => rules.ready job.id job.phase stage.world).foldl
    (fun best job =>
      match best with
      | none => some job
      | some other =>
        if rules.rank job.id job.phase stage.world < rules.rank other.id other.phase stage.world
        then some job else some other) none

/-- Lets one job run. -/
def play (stage : Stage σ τ) (job : Job τ) : Stage σ τ :=
  match rules.run job.id job.task job.left job.phase job.finished stage.world with
  | (world, .inl after) =>
    { stage with
        world
        jobs := stage.jobs.map fun other => if other.id == job.id then after else other }
  | (world, .inr outcome) =>
    { world
      jobs := stage.jobs.filter fun other => other.id != job.id
      done := stage.done ++ [(job.id, outcome)] }

/-- Lets whoever can go on do so, at most `turns` times. -/
def settleWithin : (turns : Nat) → Stage σ τ → Stage σ τ
  | 0, stage => stage
  | turns + 1, stage =>
    match rules.own stage.world with
    | some world => settleWithin turns { stage with world }
    | none =>
      match rules.next? stage with
      | none => stage
      | some job => settleWithin turns (rules.play stage job)

/-- No script that can be written makes a stage turn more often than this. -/
def manyTurns : Nat := 1000000000000

/-- Lets whoever can go on do so, until nobody can. -/
def settle (stage : Stage σ τ) : Stage σ τ :=
  rules.settleWithin manyTurns stage

def cancel (stage : Stage σ τ) (id : Nat) : Stage σ τ × Outcome :=
  match stage.jobs.find? fun job => job.id == id with
  | none => (stage, .remark .gone)
  | some job =>
    ({ stage with
        world := rules.retire id job.task (rules.abort id job.phase stage.world)
        jobs := stage.jobs.filter fun other => other.id != id }, .ok)

/-- Plays one step: performs it, settles, and records what was seen. -/
def step (perform : Stage σ τ → Stage σ τ × Outcome) (stage : Stage σ τ) : Stage σ τ × Entry :=
  let (stage, result) := perform stage
  let stage := rules.settle stage
  let (log, world) := rules.takeLog stage.world
  ({ stage with world, done := [] },
    { result, done := stage.done, pending := stage.jobs.map fun job => (job.id, job.finished), log })

/-- Plays a script, numbering its steps from the given number. -/
def playFrom {α : Type} (perform : Nat → α → Stage σ τ → Stage σ τ × Outcome) :
    Nat → List α → Stage σ τ → List Entry
  | _, [], _ => []
  | index, action :: rest, stage =>
    let (stage, entry) := rules.step (perform index action) stage
    entry :: playFrom perform (index + 1) rest stage

end Rules

end SshServer.Rehearsal
