import SshServer.Session.Basic

/-!
Contract: what the requests of a session amount to, told from the requests alone.

Owns: what a request asks for, what the requests so far amount to, and the answer that a request is
to get after them.
Does not own: the state that a session keeps instead of its requests (`Proofs.Session.Verdicts`).

A request asks for at most one thing, which its type names and its payload spells out. Of the
requests for a terminal the first one counts, of the sizes and of the values of a variable the last
one, and of the requests to start something the first one that is acceptable.
-/

namespace SshServer

open Wire

namespace Request

/-- What a request of a type carries, if its payload can be decoded. -/
def carried {α : Type} (request : Request) (kind : String) (format : Format α) : Option α :=
  if request.kind = kind then (format.decodeAll request.payload.toList).toOption else none

def terminalAsked (request : Request) : Option Terminal :=
  (request.carried "pty-req" PtyRequest.format).map fun asked =>
    ⟨asked.term, ⟨asked.width, asked.height⟩, asked.modes⟩

def sizeAsked (request : Request) : Option WindowSize :=
  (request.carried "window-change" WindowChange.format).map fun asked =>
    ⟨asked.width, asked.height⟩

/-- The signal that a request carries, if it has a known name. -/
def signalAsked (request : Request) : Option Signal :=
  (request.carried "signal" SignalRequest.format).bind fun asked => Signal.ofName? asked.name

def variableAsked (request : Request) : Option (String × String) :=
  (request.carried "env" EnvRequest.format).map fun asked => (asked.name, asked.value)

def commandAsked (request : Request) : Option String :=
  (request.carried "exec" ExecRequest.format).map ExecRequest.command

/-- The subsystem that a request names, if it is served. -/
def subsystemAsked (subsystems : List String) (request : Request) : Option String :=
  ((request.carried "subsystem" SubsystemRequest.format).map SubsystemRequest.name).filter
    subsystems.contains

/-- What a request starts where nothing was started before: a shell and a command start the main
handler, and a subsystem that is served starts its own. -/
def programAsked (subsystems : List String) (request : Request) : Option Program :=
  if request.kind = "shell" then some .main
  else
    (request.commandAsked.map fun _ => Program.main).or
      ((request.subsystemAsked subsystems).map .subsystem)

/-! ### A request asks for nothing but what its type names -/

section Kinds

variable {request : Request} {subsystems : List String}

theorem carried_of_kind {α : Type} {kind : String} (isKind : request.kind = kind)
    (format : Format α) :
    request.carried kind format = (format.decodeAll request.payload.toList).toOption :=
  if_pos isKind

theorem carried_of_other {α : Type} {kind : String} (other : request.kind ≠ kind)
    (format : Format α) : request.carried kind format = none :=
  if_neg other

theorem terminalAsked_of_other (other : request.kind ≠ "pty-req") :
    request.terminalAsked = none := by
  rw [terminalAsked, carried_of_other other, Option.map_none]

theorem sizeAsked_of_other (other : request.kind ≠ "window-change") : request.sizeAsked = none := by
  rw [sizeAsked, carried_of_other other, Option.map_none]

theorem signalAsked_of_other (other : request.kind ≠ "signal") : request.signalAsked = none := by
  rw [signalAsked, carried_of_other other, Option.bind_none]

theorem variableAsked_of_other (other : request.kind ≠ "env") : request.variableAsked = none := by
  rw [variableAsked, carried_of_other other, Option.map_none]

theorem commandAsked_of_other (other : request.kind ≠ "exec") : request.commandAsked = none := by
  rw [commandAsked, carried_of_other other, Option.map_none]

theorem subsystemAsked_of_other (other : request.kind ≠ "subsystem") :
    request.subsystemAsked subsystems = none := by
  rw [subsystemAsked, carried_of_other other, Option.map_none, Option.filter_none]

theorem programAsked_of_other (notShell : request.kind ≠ "shell") (notExec : request.kind ≠ "exec")
    (notSubsystem : request.kind ≠ "subsystem") : request.programAsked subsystems = none := by
  rw [programAsked, if_neg notShell, commandAsked_of_other notExec,
    subsystemAsked_of_other notSubsystem]
  rfl

/-- A request of a type that starts nothing asks for no handler. -/
theorem programAsked_of_kind {kind : String} (isKind : request.kind = kind)
    (noStart : kind ∉ ["shell", "exec", "subsystem"]) : request.programAsked subsystems = none := by
  have differs (start : String) (isStart : start ∈ ["shell", "exec", "subsystem"]) :
      request.kind ≠ start := by
    rintro rfl
    rw [isKind] at isStart
    exact absurd isStart noStart
  apply programAsked_of_other
  · exact differs _ (by decide)
  · exact differs _ (by decide)
  · exact differs _ (by decide)

end Kinds

end Request

/-! ### What the requests so far amount to -/

namespace History

variable (subsystems : List String) (past : List Request)

/-- The terminal: the first one that was asked for. -/
def terminal : Option Terminal :=
  past.findSome? Request.terminalAsked

/-- The sizes of the window in turn: that of the terminal, and then those asked for. -/
def sizes : List Request → List WindowSize
  | [] => []
  | request :: rest =>
    match request.terminalAsked with
    | none => sizes rest
    | some terminal => terminal.window :: rest.filterMap Request.sizeAsked

/-- The variables with the values that they were set to, in turn. -/
def settings : List (String × String) :=
  past.filterMap Request.variableAsked

/-- The first acceptable request to start something. -/
def starter : Option Request :=
  past.find? fun request => (request.programAsked subsystems).isSome

def program : Option Program :=
  (starter subsystems past).bind fun request => request.programAsked subsystems

/-- The size that a request gives the window. Resizes count once there is a terminal. -/
def sizeGranted (request : Request) : Option WindowSize :=
  if (terminal past).isSome then request.sizeAsked
  else request.terminalAsked.map Terminal.window

def programGranted (request : Request) : Option Program :=
  if (starter subsystems past).isSome then none else request.programAsked subsystems

def answer (request : Request) : Bool :=
  request.kind == "signal" ||
    request.terminalAsked.isSome && (terminal past).isNone ||
    request.sizeAsked.isSome && (terminal past).isSome ||
    request.variableAsked.isSome ||
    (request.programAsked subsystems).isSome && (starter subsystems past).isNone

/-- The answer to a request as the peer gets it, if it wants one. -/
def reply (request : Request) (verdict : Bool) : List (Nat × Bool) :=
  (request.reply.map fun number => (number, verdict)).toList

def answersAfter : (past further : List Request) → List (Nat × Bool)
  | _, [] => []
  | past, request :: rest =>
    reply request (answer subsystems past request) ++ answersAfter (past ++ [request]) rest

def answers : List (Nat × Bool) :=
  answersAfter subsystems [] past

theorem answersAfter_snoc (further : List Request) (request : Request) :
    answersAfter subsystems past (further ++ [request]) =
      answersAfter subsystems past further ++
        reply request (answer subsystems (past ++ further) request) := by
  induction further generalizing past with
  | nil => rw [List.nil_append, answersAfter, answersAfter, answersAfter, List.append_nil,
      List.append_nil, List.nil_append]
  | cons first rest inductionHypothesis =>
      rw [List.cons_append, answersAfter, inductionHypothesis, answersAfter, List.append_assoc,
        List.append_assoc]
      rfl

@[simp] theorem answers_snoc (request : Request) :
    answers subsystems (past ++ [request]) =
      answers subsystems past ++ reply request (answer subsystems past request) :=
  answersAfter_snoc subsystems [] past request

@[simp] theorem terminal_snoc (request : Request) :
    terminal (past ++ [request]) = (terminal past).or request.terminalAsked := by
  rw [terminal, List.findSome?_append, terminal, List.findSome?_singleton]

theorem filterMap_singleton {α β : Type} (asked : α → Option β) (item : α) :
    [item].filterMap asked = (asked item).toList := by
  rw [List.filterMap_cons, List.filterMap_nil]
  cases asked item with
  | none => rfl
  | some thing => rfl

theorem filterMap_snoc {α : Type} (asked : Request → Option α) (request : Request) :
    (past ++ [request]).filterMap asked = past.filterMap asked ++ (asked request).toList := by
  rw [List.filterMap_append, filterMap_singleton]

@[simp] theorem sizes_snoc (request : Request) :
    sizes (past ++ [request]) = sizes past ++ (sizeGranted past request).toList := by
  induction past with
  | nil =>
      simp only [List.nil_append, sizes, sizeGranted, terminal, List.findSome?_nil]
      cases request.terminalAsked with
      | none => rfl
      | some terminal => rfl
  | cons first rest inductionHypothesis =>
      simp only [List.cons_append, sizes]
      cases asked : first.terminalAsked with
      | none =>
          have sameTerminal : terminal (first :: rest) = terminal rest := by
            rw [terminal, List.findSome?_cons, asked, terminal]
          simp only [inductionHypothesis, sizeGranted, sameTerminal]
      | some granted =>
          have hasTerminal : terminal (first :: rest) = some granted := by
            rw [terminal, List.findSome?_cons, asked]
          simp only [filterMap_snoc, sizeGranted, hasTerminal, Option.isSome_some, if_true,
            List.cons_append]

@[simp] theorem settings_snoc (request : Request) :
    settings (past ++ [request]) = settings past ++ request.variableAsked.toList :=
  filterMap_snoc past Request.variableAsked request

@[simp] theorem starter_snoc (request : Request) :
    starter subsystems (past ++ [request]) =
      (starter subsystems past).or
        (if (request.programAsked subsystems).isSome then some request else none) := by
  rw [starter, List.find?_append, starter, List.find?_singleton]

@[simp] theorem program_snoc (request : Request) :
    program subsystems (past ++ [request]) =
      (program subsystems past).or (programGranted subsystems past request) := by
  rw [program, starter_snoc, program, programGranted]
  cases starter subsystems past with
  | some first => rw [Option.some_or, Option.isSome_some, if_pos rfl, Option.or_none]
  | none =>
      rw [Option.none_or, Option.bind_none, Option.none_or]
      cases asked : request.programAsked subsystems with
      | none => rfl
      | some program => exact asked

/-- A request that can start nothing leaves what was started as it is. -/
theorem starter_of_none {request : Request} (nothing : request.programAsked subsystems = none) :
    starter subsystems (past ++ [request]) = starter subsystems past := by
  rw [starter_snoc, nothing, Option.isSome_none, if_neg Bool.false_ne_true, Option.or_none]

theorem programGranted_of_none {request : Request}
    (nothing : request.programAsked subsystems = none) :
    programGranted subsystems past request = none := by
  rw [programGranted, nothing, ite_self]

/-- A start that is not the first one leaves what was started as it is. -/
theorem starter_of_started (request : Request)
    (started : (starter subsystems past).isSome = true) :
    starter subsystems (past ++ [request]) = starter subsystems past := by
  obtain ⟨first, found⟩ := Option.isSome_iff_exists.1 started
  rw [starter_snoc, found, Option.some_or]

theorem sizeGranted_of_none {request : Request} (noTerminal : request.terminalAsked = none)
    (noSize : request.sizeAsked = none) : sizeGranted past request = none := by
  rw [sizeGranted, noSize, noTerminal, Option.map_none, ite_self]

/-- Nothing is started after something was. -/
theorem program_eq_none_of_granted {request : Request} {granted : Program}
    (starts : programGranted subsystems past request = some granted) :
    program subsystems past = none := by
  rw [programGranted] at starts
  rw [program]
  cases found : starter subsystems past with
  | none => rfl
  | some first =>
      rw [found, Option.isSome_some, if_pos rfl] at starts
      exact absurd starts (Option.some_ne_none granted).symm

end History

/-! ### Setting variables -/

namespace SessionState

theorem lookup_setEnv (name value other : String) (env : List (String × String)) :
    (setEnv name value env).lookup other =
      if other = name then some value else env.lookup other := by
  induction env with
  | nil =>
      rw [setEnv, List.lookup_cons, List.lookup_nil]
      by_cases same : other = name
      · rw [if_pos same, beq_iff_eq.2 same]
      · rw [if_neg same, beq_eq_false_iff_ne.2 same]
  | cons entry rest inductionHypothesis =>
      obtain ⟨first, old⟩ := entry
      rw [setEnv]
      by_cases replaced : first = name
      · rw [if_pos replaced, List.lookup_cons, List.lookup_cons, replaced]
        by_cases same : other = name
        · rw [if_pos same, beq_iff_eq.2 same]
        · rw [if_neg same, beq_eq_false_iff_ne.2 same]
      · rw [if_neg replaced, List.lookup_cons, List.lookup_cons, inductionHypothesis]
        by_cases isFirst : other = first
        · have notName : ¬other = name := fun same => replaced (isFirst.symm.trans same)
          rw [beq_iff_eq.2 isFirst]
          exact (if_neg notName).symm
        · rw [beq_eq_false_iff_ne.2 isFirst]

/-- A variable that is set has a place already, or is given one behind the others. -/
theorem names_setEnv (name value : String) (env : List (String × String)) :
    (setEnv name value env).map Prod.fst =
      if name ∈ env.map Prod.fst then env.map Prod.fst else env.map Prod.fst ++ [name] := by
  induction env with
  | nil => rfl
  | cons entry rest inductionHypothesis =>
      obtain ⟨first, old⟩ := entry
      rw [setEnv]
      by_cases replaced : first = name
      · rw [if_pos replaced, replaced]
        exact (if_pos List.mem_cons_self).symm
      · have notFirst : ¬name = first := fun same => replaced same.symm
        rw [if_neg replaced, List.map_cons, List.map_cons, inductionHypothesis]
        by_cases placed : name ∈ rest.map Prod.fst
        · rw [if_pos placed, if_pos (List.mem_cons_of_mem _ placed)]
        · have absent : name ∉ first :: rest.map Prod.fst := by
            intro member
            rcases List.mem_cons.1 member with isFirst | inRest
            · exact notFirst isFirst
            · exact placed inRest
          rw [if_neg placed, if_neg absent, List.cons_append]

/-- Setting a variable keeps one value for each name. -/
theorem nodup_setEnv {env : List (String × String)} (distinct : (env.map Prod.fst).Nodup)
    (name value : String) : ((setEnv name value env).map Prod.fst).Nodup := by
  rw [names_setEnv]
  split
  · exact distinct
  next absent =>
    rw [List.nodup_append]
    refine ⟨distinct, List.nodup_cons.2 ⟨List.not_mem_nil, List.nodup_nil⟩, ?_⟩
    intro old member new isNew same
    rw [List.mem_singleton.1 isNew] at same
    rw [same] at member
    exact absent member

end SessionState

end SshServer
