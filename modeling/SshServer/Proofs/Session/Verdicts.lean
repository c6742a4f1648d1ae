import SshServer.Proofs.Session.History

/-!
Contract: a session makes of its requests what they amount to.

Owns: what it means that a state reflects the requests so far, and that the verdict on a request of
any type with any payload keeps it so.
Does not own: the loop that takes the requests up (`Proofs.Session.Requests`).
-/

namespace SshServer

open Wire

/-! ### The state -/

/-- A session knows what its requests amount to. -/
structure Reflects (subsystems : List String) (past : List Request) (state : SessionState) :
    Prop where
  terminal : state.terminal = History.terminal past
  window : state.window = (History.sizes past).getLastD default
  env : ∀ name, state.envValue name = (History.settings past).reverse.lookup name
  names : (state.env.map Prod.fst).Nodup
  rawCommand : state.rawCommand =
    (History.starter subsystems past).bind Request.commandAsked
  subsystem : state.subsystem =
    (History.starter subsystems past).bind fun request => request.subsystemAsked subsystems
  started : state.started = (History.starter subsystems past).isSome

/-- The feed after an event that a request may bring. -/
def Feed.offered {α : Type} (feed : Feed α) : Option α → Feed α
  | none => feed
  | some event => (feed.push event).1

/-- What becomes of a session with a request, in terms of the requests. -/
structure Judged (subsystems : List String) (past : List Request) (state : SessionState)
    (request : Request) (judged : SessionState × Verdict) : Prop where
  reflects : Reflects subsystems (past ++ [request]) judged.1
  answer : judged.2.answer = History.answer subsystems past request
  start : judged.2.start = History.programGranted subsystems past request
  windows : judged.1.windows = state.windows.offered (History.sizeGranted past request)
  signals : judged.1.signals = state.signals.offered request.signalAsked

/-- A request that asks for nothing, be it that it has no type of use or that its
payload is none. -/
structure Request.AsksNothing (subsystems : List String) (request : Request) : Prop where
  terminal : request.terminalAsked = none
  size : request.sizeAsked = none
  signal : request.signalAsked = none
  setting : request.variableAsked = none
  program : request.programAsked subsystems = none

section Judging

variable {subsystems : List String} {past : List Request} {state after : SessionState}
variable {request : Request} {verdict : Verdict}

/-- What a request of any type but a start changes. -/
theorem Reflects.snoc (reflects : Reflects subsystems past state)
    (sameStarter : History.starter subsystems (past ++ [request]) =
      History.starter subsystems past)
    (terminal : after.terminal = (History.terminal past).or request.terminalAsked)
    (window : after.window = (History.sizeGranted past request).getD state.window)
    (env : after.env = request.variableAsked.elim state.env fun setting =>
      SessionState.setEnv setting.1 setting.2 state.env)
    (rawCommand : after.rawCommand = state.rawCommand)
    (subsystem : after.subsystem = state.subsystem) (started : after.started = state.started) :
    Reflects subsystems (past ++ [request]) after := by
  constructor
  · rw [History.terminal_snoc, terminal]
  · rw [History.sizes_snoc, window]
    cases History.sizeGranted past request with
    | none =>
        rw [Option.toList_none, List.append_nil]
        exact reflects.window
    | some size => rw [Option.toList_some, List.getLastD_concat, Option.getD_some]
  · intro name
    rw [SessionState.envValue, env, History.settings_snoc, List.reverse_append]
    cases request.variableAsked with
    | none => exact reflects.env name
    | some setting =>
        rw [Option.elim_some, SessionState.lookup_setEnv, Option.toList_some,
          List.reverse_singleton, List.singleton_append, List.lookup_cons]
        by_cases same : name = setting.1
        · rw [if_pos same, beq_iff_eq.2 same]
        · rw [if_neg same, beq_eq_false_iff_ne.2 same]
          exact reflects.env name
  · rw [env]
    cases request.variableAsked with
    | none => exact reflects.names
    | some setting => exact SessionState.nodup_setEnv reflects.names _ _
  · rw [sameStarter, rawCommand]
    exact reflects.rawCommand
  · rw [sameStarter, subsystem]
    exact reflects.subsystem
  · rw [sameStarter, started]
    exact reflects.started

/-- A request that starts nothing, with what it changes. -/
theorem Judged.ofNoProgram (reflects : Reflects subsystems past state)
    (noProgram : request.programAsked subsystems = none)
    (terminal : after.terminal = (History.terminal past).or request.terminalAsked)
    (window : after.window = (History.sizeGranted past request).getD state.window)
    (env : after.env = request.variableAsked.elim state.env fun setting =>
      SessionState.setEnv setting.1 setting.2 state.env)
    (windows : after.windows = state.windows.offered (History.sizeGranted past request))
    (signals : after.signals = state.signals.offered request.signalAsked)
    (rawCommand : after.rawCommand = state.rawCommand)
    (subsystem : after.subsystem = state.subsystem) (started : after.started = state.started)
    (answer : verdict.answer = History.answer subsystems past request)
    (start : verdict.start = none) :
    Judged subsystems past state request (after, verdict) where
  reflects := reflects.snoc (History.starter_of_none _ _ noProgram) terminal window env rawCommand
    subsystem started
  answer := answer
  start := start.trans (History.programGranted_of_none _ _ noProgram).symm
  windows := windows
  signals := signals

/-- A request that is granted nothing changes nothing. -/
theorem Judged.unchanged (reflects : Reflects subsystems past state)
    (sameStarter : History.starter subsystems (past ++ [request]) =
      History.starter subsystems past)
    (noStart : History.programGranted subsystems past request = none)
    (sameTerminal : (History.terminal past).or request.terminalAsked = History.terminal past)
    (noSize : History.sizeGranted past request = none) (noSignal : request.signalAsked = none)
    (noSetting : request.variableAsked = none)
    (answer : verdict.answer = History.answer subsystems past request)
    (start : verdict.start = none) :
    Judged subsystems past state request (state, verdict) := by
  constructor
  case reflects =>
    apply reflects.snoc sameStarter
    case terminal => rw [sameTerminal, reflects.terminal]
    case window => rw [noSize, Option.getD_none]
    case env => rw [noSetting, Option.elim_none]
    all_goals rfl
  case answer => exact answer
  case start => rw [start, noStart]
  case windows =>
    rw [noSize]
    rfl
  case signals =>
    rw [noSignal]
    rfl

/-- A request that asks for nothing changes nothing, and only a signal has it granted. -/
theorem Judged.ofNothing (reflects : Reflects subsystems past state)
    (nothing : request.AsksNothing subsystems)
    (answer : verdict.answer = (request.kind == "signal")) (start : verdict.start = none) :
    Judged subsystems past state request (state, verdict) := by
  apply Judged.unchanged reflects
  case sameStarter => exact History.starter_of_none _ _ nothing.program
  case noStart => exact History.programGranted_of_none _ _ nothing.program
  case sameTerminal => rw [nothing.terminal, Option.or_none]
  case noSize => exact History.sizeGranted_of_none _ nothing.terminal nothing.size
  case noSignal => exact nothing.signal
  case noSetting => exact nothing.setting
  case answer =>
    simp [History.answer, answer, nothing.terminal, nothing.size, nothing.setting, nothing.program]
  case start => exact start

/-! ### The types of requests -/

theorem judgePty_judged (reflects : Reflects subsystems past state)
    (isKind : request.kind = "pty-req") :
    Judged subsystems past state request (state.judgePty request.payload.toList) := by
  have asked : request.terminalAsked =
      (PtyRequest.format.decodeAll request.payload.toList).toOption.map fun asked =>
        ⟨asked.term, ⟨asked.width, asked.height⟩, asked.modes⟩ := by
    rw [Request.terminalAsked, Request.carried_of_kind isKind]
  have noSize : request.sizeAsked = none := Request.sizeAsked_of_other (by rw [isKind]; decide)
  have noSignal : request.signalAsked = none :=
    Request.signalAsked_of_other (by rw [isKind]; decide)
  have noSetting : request.variableAsked = none :=
    Request.variableAsked_of_other (by rw [isKind]; decide)
  have noProgram : request.programAsked subsystems = none :=
    Request.programAsked_of_kind isKind (by decide)
  unfold SessionState.judgePty
  cases decoded : PtyRequest.format.decodeAll request.payload.toList with
  | error cause =>
      rw [decoded] at asked
      apply Judged.ofNothing reflects ⟨asked, noSize, noSignal, noSetting, noProgram⟩
      · rw [isKind]
        rfl
      · rfl
  | ok granted =>
      rw [decoded] at asked
      dsimp only
      split
      next repeated =>
        rw [reflects.terminal] at repeated
        obtain ⟨terminal, found⟩ := Option.isSome_iff_exists.1 repeated
        apply Judged.unchanged reflects
        case sameStarter => exact History.starter_of_none _ _ noProgram
        case noStart => exact History.programGranted_of_none _ _ noProgram
        case sameTerminal => rw [found, Option.some_or]
        case noSize => rw [History.sizeGranted, if_pos repeated, noSize]
        case noSignal => exact noSignal
        case noSetting => exact noSetting
        case answer =>
          simp [History.answer, isKind, found, noSize, noSetting, noProgram, Verdict.repeated,
            Verdict.refused]
        case start => rfl
      next first =>
        rw [reflects.terminal, Option.not_isSome_iff_eq_none] at first
        have size : History.sizeGranted past request = some ⟨granted.width, granted.height⟩ := by
          rw [History.sizeGranted, first, asked]
          rfl
        apply Judged.ofNoProgram reflects noProgram
        case terminal =>
          rw [first, Option.none_or, asked]
          rfl
        case window => rw [size, Option.getD_some]
        case env => rw [noSetting, Option.elim_none]
        case windows =>
          rw [size]
          rfl
        case signals =>
          rw [noSignal]
          rfl
        case answer => simp [History.answer, asked, first, Except.toOption]
        all_goals rfl

theorem judgeResize_judged (reflects : Reflects subsystems past state)
    (isKind : request.kind = "window-change") :
    Judged subsystems past state request (state.judgeResize request.payload.toList) := by
  have asked : request.sizeAsked =
      (WindowChange.format.decodeAll request.payload.toList).toOption.map fun asked =>
        ⟨asked.width, asked.height⟩ := by
    rw [Request.sizeAsked, Request.carried_of_kind isKind]
  have noTerminal : request.terminalAsked = none :=
    Request.terminalAsked_of_other (by rw [isKind]; decide)
  have noSignal : request.signalAsked = none :=
    Request.signalAsked_of_other (by rw [isKind]; decide)
  have noSetting : request.variableAsked = none :=
    Request.variableAsked_of_other (by rw [isKind]; decide)
  have noProgram : request.programAsked subsystems = none :=
    Request.programAsked_of_kind isKind (by decide)
  unfold SessionState.judgeResize
  cases decoded : WindowChange.format.decodeAll request.payload.toList with
  | error cause =>
      rw [decoded] at asked
      apply Judged.ofNothing reflects ⟨noTerminal, asked, noSignal, noSetting, noProgram⟩
      · rw [isKind]
        rfl
      · rfl
  | ok change =>
      rw [decoded] at asked
      dsimp only
      split
      next missing =>
        rw [reflects.terminal, Option.isNone_iff_eq_none] at missing
        apply Judged.unchanged reflects
        case sameStarter => exact History.starter_of_none _ _ noProgram
        case noStart => exact History.programGranted_of_none _ _ noProgram
        case sameTerminal => rw [noTerminal, Option.or_none]
        case noSize =>
          rw [History.sizeGranted, missing, noTerminal]
          rfl
        case noSignal => exact noSignal
        case noSetting => exact noSetting
        case answer =>
          simp [History.answer, isKind, missing, noTerminal, noSetting, noProgram, Verdict.refused]
        case start => rfl
      next present =>
        rw [reflects.terminal, Bool.not_eq_true, Option.isNone_eq_false_iff] at present
        have size : History.sizeGranted past request = some ⟨change.width, change.height⟩ := by
          rw [History.sizeGranted, if_pos present, asked]
          rfl
        apply Judged.ofNoProgram reflects noProgram
        case terminal => rw [noTerminal, Option.or_none, reflects.terminal]
        case window => rw [size, Option.getD_some]
        case env => rw [noSetting, Option.elim_none]
        case windows =>
          rw [size]
          rfl
        case signals =>
          rw [noSignal]
          rfl
        case answer => simp [History.answer, asked, present, Except.toOption]
        all_goals rfl

/-- An event that a full or closed feed drops leaves the feed as it is. -/
theorem Feed.push_of_dropped {α : Type} {feed : Feed α} {event : α}
    (dropped : (feed.push event).2 = false) : (feed.push event).1 = feed := by
  unfold push at dropped ⊢
  split
  · rfl
  next room =>
    rw [if_neg room] at dropped
    exact absurd dropped Bool.true_eq_false.mp

theorem judgeSignal_judged (reflects : Reflects subsystems past state)
    (isKind : request.kind = "signal") :
    Judged subsystems past state request (state.judgeSignal request.payload.toList) := by
  have asked : request.signalAsked =
      (SignalRequest.format.decodeAll request.payload.toList).toOption.bind fun asked =>
        Signal.ofName? asked.name := by
    rw [Request.signalAsked, Request.carried_of_kind isKind]
  have noTerminal : request.terminalAsked = none :=
    Request.terminalAsked_of_other (by rw [isKind]; decide)
  have noSize : request.sizeAsked = none := Request.sizeAsked_of_other (by rw [isKind]; decide)
  have noSetting : request.variableAsked = none :=
    Request.variableAsked_of_other (by rw [isKind]; decide)
  have noProgram : request.programAsked subsystems = none :=
    Request.programAsked_of_kind isKind (by decide)
  unfold SessionState.judgeSignal
  cases decoded : SignalRequest.format.decodeAll request.payload.toList with
  | error cause =>
      rw [decoded] at asked
      apply Judged.ofNothing reflects ⟨noTerminal, noSize, asked, noSetting, noProgram⟩
      · rw [isKind]
        rfl
      · rfl
  | ok carried =>
      rw [decoded] at asked
      change request.signalAsked = Signal.ofName? carried.name at asked
      dsimp only
      cases known : Signal.ofName? carried.name with
      | none =>
          rw [known] at asked
          apply Judged.ofNothing reflects ⟨noTerminal, noSize, asked, noSetting, noProgram⟩
          · rw [isKind]
            rfl
          · rfl
      | some signal =>
          rw [known] at asked
          have size := History.sizeGranted_of_none past noTerminal noSize
          have judged (signals : Feed Signal) (verdict : Verdict)
              (offered : signals = (state.signals.push signal).1) (answer : verdict.answer = true)
              (start : verdict.start = none) :
              Judged subsystems past state request ({ state with signals }, verdict) := by
            apply Judged.ofNoProgram reflects noProgram
            case terminal => rw [noTerminal, Option.or_none, reflects.terminal]
            case window => rw [size, Option.getD_none]
            case env => rw [noSetting, Option.elim_none]
            case windows =>
              rw [size]
              rfl
            case signals =>
              rw [asked]
              exact offered
            case answer => simp [History.answer, isKind, answer]
            case start => exact start
            all_goals rfl
          dsimp only
          split
          · exact judged _ _ rfl rfl rfl
          next dropped =>
            rw [Bool.not_eq_true] at dropped
            exact judged state.signals _ (Feed.push_of_dropped dropped).symm rfl rfl

theorem judgeEnv_judged (reflects : Reflects subsystems past state)
    (isKind : request.kind = "env") :
    Judged subsystems past state request (state.judgeEnv request.payload.toList) := by
  have asked : request.variableAsked =
      (EnvRequest.format.decodeAll request.payload.toList).toOption.map fun asked =>
        (asked.name, asked.value) := by
    rw [Request.variableAsked, Request.carried_of_kind isKind]
  have noTerminal : request.terminalAsked = none :=
    Request.terminalAsked_of_other (by rw [isKind]; decide)
  have noSize : request.sizeAsked = none := Request.sizeAsked_of_other (by rw [isKind]; decide)
  have noSignal : request.signalAsked = none :=
    Request.signalAsked_of_other (by rw [isKind]; decide)
  have noProgram : request.programAsked subsystems = none :=
    Request.programAsked_of_kind isKind (by decide)
  have size := History.sizeGranted_of_none past noTerminal noSize
  unfold SessionState.judgeEnv
  cases decoded : EnvRequest.format.decodeAll request.payload.toList with
  | error cause =>
      rw [decoded] at asked
      apply Judged.ofNothing reflects ⟨noTerminal, noSize, noSignal, asked, noProgram⟩
      · rw [isKind]
        rfl
      · rfl
  | ok setting =>
      rw [decoded] at asked
      apply Judged.ofNoProgram reflects noProgram
      case terminal => rw [noTerminal, Option.or_none, reflects.terminal]
      case window => rw [size, Option.getD_none]
      case env =>
        rw [asked]
        rfl
      case windows =>
        rw [size]
        rfl
      case signals =>
        rw [noSignal]
        rfl
      case answer => simp [History.answer, asked, Except.toOption]
      all_goals rfl

/-- A request to start a handler asks for nothing else. -/
structure Request.AsksToStart (request : Request) : Prop where
  terminal : request.terminalAsked = none
  size : request.sizeAsked = none
  signal : request.signalAsked = none
  setting : request.variableAsked = none
  notSignal : (request.kind == "signal") = false

theorem Request.AsksToStart.ofKind
    (isKind : request.kind = "shell" ∨ request.kind = "exec" ∨ request.kind = "subsystem") :
    request.AsksToStart := by
  have others (kind : String) (isOther : kind ∈ ["pty-req", "window-change", "signal", "env"]) :
      request.kind ≠ kind := by
    rintro rfl
    rcases isKind with isKind | isKind | isKind
    all_goals
      rw [isKind] at isOther
      exact absurd isOther (by decide)
  constructor
  case terminal => exact Request.terminalAsked_of_other (others _ (by decide))
  case size => exact Request.sizeAsked_of_other (others _ (by decide))
  case signal => exact Request.signalAsked_of_other (others _ (by decide))
  case setting => exact Request.variableAsked_of_other (others _ (by decide))
  case notSignal => exact beq_eq_false_iff_ne.2 (others _ (by decide))

/-- Before the first start neither the command nor the subsystem is known. -/
theorem Reflects.before_start (reflects : Reflects subsystems past state)
    (notStarted : state.started = false) :
    History.starter subsystems past = none ∧ state.rawCommand = none ∧ state.subsystem = none := by
  have first : History.starter subsystems past = none := by
    rw [reflects.started, Option.isSome_eq_false_iff, Option.isNone_iff_eq_none] at notStarted
    exact notStarted
  refine ⟨first, ?_, ?_⟩
  · rw [reflects.rawCommand, first, Option.bind_none]
  · rw [reflects.subsystem, first, Option.bind_none]

/-- The first acceptable start fixes the command and the subsystem. -/
theorem Judged.ofStart {program : Program} (reflects : Reflects subsystems past state)
    (asks : request.AsksToStart) (first : History.starter subsystems past = none)
    (asked : request.programAsked subsystems = some program)
    (rawCommand : after.rawCommand = request.commandAsked)
    (subsystem : after.subsystem = request.subsystemAsked subsystems)
    (others : after = { state with
      rawCommand := after.rawCommand, subsystem := after.subsystem, started := true }) :
    Judged subsystems past state request (after, { answer := true, start := some program }) := by
  have size := History.sizeGranted_of_none past asks.terminal asks.size
  have starter : History.starter subsystems (past ++ [request]) = some request := by
    rw [History.starter_snoc, first, asked, Option.isSome_some, if_pos rfl, Option.none_or]
  constructor
  case reflects =>
    constructor
    · rw [History.terminal_snoc, asks.terminal, Option.or_none, others]
      exact reflects.terminal
    · rw [History.sizes_snoc, size, Option.toList_none, List.append_nil, others]
      exact reflects.window
    · rw [History.settings_snoc, asks.setting, Option.toList_none, List.append_nil, others]
      exact reflects.env
    · rw [others]
      exact reflects.names
    · rw [starter, Option.bind_some]
      exact rawCommand
    · rw [starter, Option.bind_some]
      exact subsystem
    · rw [starter, others]
      rfl
  case answer => simp [History.answer, asked, first]
  case start =>
    rw [History.programGranted, first, Option.isSome_none, if_neg Bool.false_ne_true, asked]
  case windows =>
    rw [size, others]
    rfl
  case signals =>
    rw [asks.signal, others]
    rfl

/-- A start that asks for no handler that there is changes nothing and is refused. -/
theorem Judged.ofNoStart (reflects : Reflects subsystems past state) (asks : request.AsksToStart)
    (noProgram : request.programAsked subsystems = none) (answer : verdict.answer = false)
    (start : verdict.start = none) : Judged subsystems past state request (state, verdict) := by
  apply Judged.ofNothing reflects ⟨asks.terminal, asks.size, asks.signal, asks.setting, noProgram⟩
  · rw [answer, asks.notSignal]
  · exact start

/-- Once a handler was started no request starts another one. -/
theorem judgeStart_judged_of_started (reflects : Reflects subsystems past state)
    (asks : request.AsksToStart) (repeated : state.started = true) (payload : List UInt8) :
    Judged subsystems past state request
      (state.judgeStart subsystems request.kind payload) := by
  rw [SessionState.judgeStart, if_pos repeated]
  rw [reflects.started] at repeated
  obtain ⟨first, found⟩ := Option.isSome_iff_exists.1 repeated
  apply Judged.unchanged reflects
  case sameStarter => exact History.starter_of_started _ _ request repeated
  case noStart => rw [History.programGranted, if_pos repeated]
  case sameTerminal => rw [asks.terminal, Option.or_none]
  case noSize => exact History.sizeGranted_of_none past asks.terminal asks.size
  case noSignal => exact asks.signal
  case noSetting => exact asks.setting
  case answer =>
    simp [History.answer, asks.notSignal, asks.terminal, asks.size, asks.setting, found,
      Verdict.repeated, Verdict.refused]
  case start => rfl

theorem judgeStart_judged_of_shell (reflects : Reflects subsystems past state)
    (notStarted : state.started = false) (isShell : request.kind = "shell") :
    Judged subsystems past state request
      (state.judgeStart subsystems request.kind request.payload.toList) := by
  obtain ⟨first, noCommand, noSubsystem⟩ := reflects.before_start notStarted
  have notExec : request.kind ≠ "exec" := by
    rw [isShell]
    decide
  have notSubsystem : request.kind ≠ "subsystem" := by
    rw [isShell]
    decide
  have program : request.programAsked subsystems = some .main := by
    rw [Request.programAsked, if_pos isShell]
  rw [SessionState.judgeStart, if_neg (Bool.eq_false_iff.1 notStarted), if_neg notExec,
    if_neg notSubsystem]
  apply Judged.ofStart reflects (.ofKind (.inl isShell)) first program
  case rawCommand => exact noCommand.trans (Request.commandAsked_of_other notExec).symm
  case subsystem => exact noSubsystem.trans (Request.subsystemAsked_of_other notSubsystem).symm
  case others => rfl

theorem judgeStart_judged_of_exec (reflects : Reflects subsystems past state)
    (notStarted : state.started = false) (isExec : request.kind = "exec") :
    Judged subsystems past state request
      (state.judgeStart subsystems request.kind request.payload.toList) := by
  obtain ⟨first, -, noSubsystem⟩ := reflects.before_start notStarted
  have asks : request.AsksToStart := .ofKind (.inr (.inl isExec))
  have asked : request.commandAsked =
      (ExecRequest.format.decodeAll request.payload.toList).toOption.map ExecRequest.command := by
    rw [Request.commandAsked, Request.carried_of_kind isExec]
  have notSubsystem : request.subsystemAsked subsystems = none :=
    Request.subsystemAsked_of_other (by rw [isExec]; decide)
  have program : request.programAsked subsystems =
      request.commandAsked.map fun _ => Program.main := by
    simp [Request.programAsked, isExec, notSubsystem]
  rw [SessionState.judgeStart, if_neg (Bool.eq_false_iff.1 notStarted), if_pos isExec]
  cases decoded : ExecRequest.format.decodeAll request.payload.toList with
  | error cause =>
      rw [decoded] at asked
      rw [asked] at program
      exact Judged.ofNoStart reflects asks program rfl rfl
  | ok command =>
      rw [decoded] at asked
      rw [asked] at program
      apply Judged.ofStart reflects asks first program
      case rawCommand => exact asked.symm
      case subsystem => exact noSubsystem.trans notSubsystem.symm
      case others => rfl

theorem judgeStart_judged_of_subsystem (reflects : Reflects subsystems past state)
    (notStarted : state.started = false) (isSubsystem : request.kind = "subsystem") :
    Judged subsystems past state request
      (state.judgeStart subsystems request.kind request.payload.toList) := by
  obtain ⟨first, noCommand, -⟩ := reflects.before_start notStarted
  have asks : request.AsksToStart := .ofKind (.inr (.inr isSubsystem))
  have notExec : request.kind ≠ "exec" := by
    rw [isSubsystem]
    decide
  have noCommandAsked : request.commandAsked = none := Request.commandAsked_of_other notExec
  have asked : request.subsystemAsked subsystems =
      ((SubsystemRequest.format.decodeAll request.payload.toList).toOption.map
        SubsystemRequest.name).filter subsystems.contains := by
    rw [Request.subsystemAsked, Request.carried_of_kind isSubsystem]
  have program : request.programAsked subsystems =
      (request.subsystemAsked subsystems).map Program.subsystem := by
    simp [Request.programAsked, isSubsystem, noCommandAsked]
  rw [SessionState.judgeStart, if_neg (Bool.eq_false_iff.1 notStarted), if_neg notExec,
    if_pos isSubsystem]
  cases decoded : SubsystemRequest.format.decodeAll request.payload.toList with
  | error cause =>
      rw [decoded] at asked
      rw [asked] at program
      exact Judged.ofNoStart reflects asks program rfl rfl
  | ok named =>
      rw [decoded] at asked
      change request.subsystemAsked subsystems =
        (some named.name).filter subsystems.contains at asked
      dsimp only
      split
      next isServed =>
        rw [Option.filter_some_pos isServed] at asked
        rw [asked] at program
        apply Judged.ofStart reflects asks first program
        case rawCommand => exact noCommand.trans noCommandAsked.symm
        case subsystem => exact asked.symm
        case others => rfl
      next notServed =>
        rw [Option.filter_some_neg (Bool.not_eq_true _ ▸ notServed)] at asked
        rw [asked] at program
        exact Judged.ofNoStart reflects asks program rfl rfl

theorem judgeStart_judged (reflects : Reflects subsystems past state)
    (isKind : request.kind = "shell" ∨ request.kind = "exec" ∨ request.kind = "subsystem") :
    Judged subsystems past state request
      (state.judgeStart subsystems request.kind request.payload.toList) := by
  cases started : state.started with
  | true => exact judgeStart_judged_of_started reflects (.ofKind isKind) started _
  | false =>
      rcases isKind with isShell | isExec | isSubsystem
      · exact judgeStart_judged_of_shell reflects started isShell
      · exact judgeStart_judged_of_exec reflects started isExec
      · exact judgeStart_judged_of_subsystem reflects started isSubsystem

/-- A session makes of its requests what they amount to, whatever their types and payloads. -/
theorem judge_judged (reflects : Reflects subsystems past state) (request : Request) :
    Judged subsystems past state request
      (state.judge subsystems request.kind request.payload.toList) := by
  unfold SessionState.judge
  split
  next isKind => exact judgePty_judged reflects isKind
  next isKind => exact judgeResize_judged reflects isKind
  next isKind => exact judgeSignal_judged reflects isKind
  next isKind => exact judgeEnv_judged reflects isKind
  next isKind => exact judgeStart_judged reflects (.inl isKind)
  next isKind => exact judgeStart_judged reflects (.inr (.inl isKind))
  next isKind => exact judgeStart_judged reflects (.inr (.inr isKind))
  next notPty notResize notSignal notEnv notShell notExec notSubsystem =>
    have nothing : request.AsksNothing subsystems :=
      ⟨Request.terminalAsked_of_other notPty, Request.sizeAsked_of_other notResize,
        Request.signalAsked_of_other notSignal, Request.variableAsked_of_other notEnv,
        Request.programAsked_of_other notShell notExec notSubsystem⟩
    apply Judged.ofNothing reflects nothing
    · rw [beq_eq_false_iff_ne.2 notSignal]
      rfl
    · rfl

/-! ### Refusals -/

/-- Where a request is refused, the state stays and nothing is started. -/
def HarmlessRefusal (state : SessionState) (judged : SessionState × Verdict) : Prop :=
  judged.2.answer = false → judged.1 = state ∧ judged.2.start = none

theorem HarmlessRefusal.of_unchanged (start : verdict.start = none) :
    HarmlessRefusal state (state, verdict) :=
  fun _ => ⟨rfl, start⟩

theorem HarmlessRefusal.of_granted (answer : verdict.answer = true) :
    HarmlessRefusal state (after, verdict) :=
  fun refused => absurd (answer.symm.trans refused) Bool.true_eq_false.mp

theorem judgeStart_harmless (state : SessionState) (subsystems : List String) (kind : String)
    (payload : List UInt8) :
    HarmlessRefusal state (state.judgeStart subsystems kind payload) := by
  unfold SessionState.judgeStart
  split
  · exact .of_unchanged rfl
  · split
    · split
      · exact .of_unchanged rfl
      · exact .of_granted rfl
    · split
      · split
        · exact .of_unchanged rfl
        · split
          · exact .of_granted rfl
          · exact .of_unchanged rfl
      · exact .of_granted rfl

theorem judge_harmless (state : SessionState) (subsystems : List String) (kind : String)
    (payload : List UInt8) : HarmlessRefusal state (state.judge subsystems kind payload) := by
  unfold SessionState.judge
  split
  · unfold SessionState.judgePty
    split
    · exact .of_unchanged rfl
    · split
      · exact .of_unchanged rfl
      · exact .of_granted rfl
  · unfold SessionState.judgeResize
    split
    · exact .of_unchanged rfl
    · split
      · exact .of_unchanged rfl
      · exact .of_granted rfl
  · unfold SessionState.judgeSignal
    split
    · exact .of_granted rfl
    · split
      · exact .of_granted rfl
      · dsimp only
        split
        · exact .of_granted rfl
        · exact .of_granted rfl
  · unfold SessionState.judgeEnv
    split
    · exact .of_unchanged rfl
    · exact .of_granted rfl
  · exact judgeStart_harmless state subsystems _ payload
  · exact judgeStart_harmless state subsystems _ payload
  · exact judgeStart_harmless state subsystems _ payload
  · exact .of_unchanged rfl

end Judging

end SshServer
