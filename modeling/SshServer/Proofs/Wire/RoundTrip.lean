import SshServer.Wire.Payload

/-!
Contract: reading undoes writing, for every payload.

Owns: what a writer appends to a buffer, what a reader takes off the front of a byte string, how
either composes, which values are short enough for their counts, and the round trip of all nine
payloads.
Does not own: what a reader does with bytes that no writer wrote.

A mode list is the one part that does not come back as it was: entries with the end code are left
out, and the first code without an argument ends the list.
-/

namespace SshServer.Wire

/-! ### Writers -/

/-- A writer that appends `content` to any buffer and leaves what the buffer held as it was. -/
def Appends (writer : Writer) (content : List UInt8) : Prop :=
  ∀ buffer, StateT.run writer buffer = ((), buffer ++ content)

theorem Appends.seq {first second : Writer} {front back : List UInt8}
    (firstAppends : Appends first front) (secondAppends : Appends second back) :
    Appends (do first; second) (front ++ back) := by
  intro buffer
  rw [StateT.run_bind, firstAppends buffer, ← List.append_assoc]
  exact secondAppends (buffer ++ front)

theorem appends_put (content : List UInt8) : Appends (put content) content :=
  fun _ => rfl

theorem appends_putUInt32 (value : UInt32) : Appends (putUInt32 value) (uint32 value) :=
  appends_put _

theorem appends_putBytes (content : List UInt8) : Appends (putBytes content) (bytes content) :=
  (appends_putUInt32 _).seq (appends_put content)

theorem appends_putString (text : String) : Appends (putString text) (string text) :=
  appends_putBytes _

/-! ### Readers -/

/-- A reader that takes `content` off the front, whatever follows it, and makes `value` of it. -/
def Reads {α : Type} (reader : Reader α) (content : List UInt8) (value : α) : Prop :=
  ∀ rest, reader.run (content ++ rest) = .ok (value, rest)

theorem Reads.bind {α β : Type} {reader : Reader α} {next : α → Reader β} {front back : List UInt8}
    {value : α} {result : β} (readsFront : Reads reader front value)
    (readsBack : Reads (next value) back result) :
    Reads (reader >>= next) (front ++ back) result := by
  intro rest
  rw [StateT.run_bind, List.append_assoc, readsFront (back ++ rest)]
  exact readsBack rest

/-- The last field of a payload: what was read is put together, and nothing more is read. -/
theorem Reads.finish {α β : Type} {reader : Reader α} {content : List UInt8} {value : α}
    (reads : Reads reader content value) (make : α → β) :
    Reads (do let field ← reader; pure (make field)) content (make value) := by
  intro rest
  rw [StateT.run_bind, reads rest]
  rfl

/-! The readers of fields, by what is found at the front. The input is left general here: at a
written number the parts of the number would be computed. -/

section Fields

variable {field : String} {input tail rest content : List UInt8} {value count : UInt32}

theorem run_readUInt32 (found : uint32? input = some (value, rest)) :
    StateT.run (readUInt32 field) input = .ok (value, rest) := by
  simp only [StateT.run, readUInt32, found]

theorem run_readOptionalUInt32 (found : uint32? input = some (value, rest)) :
    StateT.run readOptionalUInt32 input = .ok (value, rest) := by
  simp only [StateT.run, readOptionalUInt32, found]

theorem run_readBytes (counted : uint32? input = some (count, tail))
    (taken : split? count.toNat tail = some (content, rest)) :
    StateT.run (readBytes field) input = .ok (content, rest) := by
  rw [readBytes, StateT.run_bind, run_readUInt32 counted]
  simp only [StateT.run, bind, Except.bind, taken]

theorem run_readOptionalBytes (counted : uint32? input = some (count, tail))
    (taken : split? count.toNat tail = some (content, rest)) :
    StateT.run readOptionalBytes input = .ok (content, rest) := by
  simp only [StateT.run, readOptionalBytes, counted, taken]

end Fields

theorem reads_uint32 (field : String) (value : UInt32) :
    Reads (readUInt32 field) (uint32 value) value :=
  fun rest => run_readUInt32 (uint32?_uint32_append value rest)

theorem reads_optionalUInt32 (value : UInt32) : Reads readOptionalUInt32 (uint32 value) value :=
  fun rest => run_readOptionalUInt32 (uint32?_uint32_append value rest)

/-- The count in front of bytes that are few enough says how many there are. -/
theorem uint32?_bytes_append (content rest : List UInt8) :
    uint32? (bytes content ++ rest) = some (UInt32.ofNat content.length, content ++ rest) := by
  rw [bytes, List.append_assoc, uint32?_uint32_append]

theorem split?_count_append {content : List UInt8} (short : content.length < UInt32.size)
    (rest : List UInt8) :
    split? (UInt32.ofNat content.length).toNat (content ++ rest) = some (content, rest) := by
  rw [UInt32.toNat_ofNat', Nat.mod_eq_of_lt short, split?_append]

theorem reads_bytes (field : String) {content : List UInt8} (short : content.length < UInt32.size) :
    Reads (readBytes field) (bytes content) content :=
  fun rest => run_readBytes (uint32?_bytes_append content rest) (split?_count_append short rest)

theorem reads_optionalBytes {content : List UInt8} (short : content.length < UInt32.size) :
    Reads readOptionalBytes (bytes content) content :=
  fun rest =>
    run_readOptionalBytes (uint32?_bytes_append content rest) (split?_count_append short rest)

/-- The bytes of a text are the text again. -/
theorem fromUTF8?_utf8 (text : String) : String.fromUTF8? (utf8 text).toByteArray = some text := by
  have sameBytes : (utf8 text).toByteArray = text.toByteArray := by
    apply ByteArray.ext
    simp [utf8]
  rw [sameBytes, String.fromUTF8?, dif_pos text.isValidUTF8]
  rfl

theorem reads_string (field : String) {text : String} (short : (utf8 text).length < UInt32.size) :
    Reads (readString field) (string text) text := by
  intro rest
  rw [readString, StateT.run_bind, string, reads_bytes field short rest]
  simp only [bind, Except.bind, fromUTF8?_utf8]
  rfl

/-! ### Mode lists -/

/-- What comes back of a mode list: entries with the end code are dropped, and of the rest the
longest front is kept whose codes all take an argument. -/
def wellFormedModes (modes : List (UInt8 × UInt32)) : List (UInt8 × UInt32) :=
  (modes.filter fun entry => entry.1 != modesEnd).takeWhile fun entry =>
    entry.1 ≤ lastModeWithArgument

/-- One written entry is read back, unless its code ends the list. -/
theorem readModeList_entry (code : UInt8) (argument : UInt32) (tail : List UInt8) :
    readModeList (code :: (uint32 argument ++ tail)) =
      if code = modesEnd ∨ code > lastModeWithArgument then []
      else (code, argument) :: readModeList tail := by
  have argumentAgain : uint32? (uint32 argument ++ tail) = some (argument, tail) :=
    uint32?_uint32_append argument tail
  simp only [uint32, List.cons_append, List.nil_append, uint32?, Option.some.injEq,
    Prod.mk.injEq, and_true] at argumentAgain
  simp only [uint32, List.cons_append, List.nil_append, readModeList, argumentAgain]

theorem readModeList_modeList (modes : List (UInt8 × UInt32)) :
    readModeList (modeList modes) = wellFormedModes modes := by
  induction modes with
  | nil => rfl
  | cons entry rest inductionHypothesis =>
      obtain ⟨code, argument⟩ := entry
      by_cases isEnd : code = modesEnd
      · rw [modeList, if_pos isEnd, inductionHypothesis]
        simp [wellFormedModes, isEnd]
      · rw [modeList, if_neg isEnd, readModeList_entry, inductionHypothesis]
        by_cases takesArgument : code ≤ lastModeWithArgument
        · simp [wellFormedModes, isEnd, takesArgument]
        · simp [wellFormedModes, isEnd, takesArgument]

/-! ### Payloads -/

/-- A format that writes `value` as bytes from which it reads `result`. -/
def Carries {α : Type} (format : Format α) (value result : α) : Prop :=
  ∃ content, Appends (format.encode value) content ∧ Reads format.read content result

/-- Whether the length of a byte string can be written as its count. -/
def Short (content : List UInt8) : Prop :=
  content.length < UInt32.size

instance (content : List UInt8) : Decidable (Short content) :=
  inferInstanceAs (Decidable (content.length < UInt32.size))

theorem carries_pty (request : PtyRequest) (termShort : Short (utf8 request.term))
    (modesShort : Short (modeList request.modes)) :
    Carries PtyRequest.format request
      { request with modes := wellFormedModes request.modes } := by
  refine ⟨string request.term ++ (uint32 request.width ++ (uint32 request.height ++
    (uint32 request.pixelWidth ++ (uint32 request.pixelHeight ++
      bytes (modeList request.modes))))), ?_, ?_⟩
  · exact (appends_putString _).seq <| (appends_putUInt32 _).seq <| (appends_putUInt32 _).seq <|
      (appends_putUInt32 _).seq <| (appends_putUInt32 _).seq <| appends_putBytes _
  · rw [← readModeList_modeList]
    exact (reads_string _ termShort).bind <| (reads_uint32 _ _).bind <| (reads_uint32 _ _).bind <|
      (reads_optionalUInt32 _).bind <| (reads_optionalUInt32 _).bind <|
      (reads_optionalBytes modesShort).finish _

theorem carries_windowChange (change : WindowChange) :
    Carries WindowChange.format change change := by
  refine ⟨uint32 change.width ++ (uint32 change.height ++ (uint32 change.pixelWidth ++
    uint32 change.pixelHeight)), ?_, ?_⟩
  · exact (appends_putUInt32 _).seq <| (appends_putUInt32 _).seq <| (appends_putUInt32 _).seq <|
      appends_putUInt32 _
  · exact (reads_uint32 _ _).bind <| (reads_uint32 _ _).bind <| (reads_optionalUInt32 _).bind <|
      (reads_optionalUInt32 _).finish _

theorem carries_signal (request : SignalRequest) (nameShort : Short (utf8 request.name)) :
    Carries SignalRequest.format request request :=
  ⟨string request.name, appends_putString _, (reads_string _ nameShort).finish _⟩

theorem carries_exec (request : ExecRequest) (commandShort : Short (utf8 request.command)) :
    Carries ExecRequest.format request request :=
  ⟨string request.command, appends_putString _, (reads_string _ commandShort).finish _⟩

theorem carries_subsystem (request : SubsystemRequest) (nameShort : Short (utf8 request.name)) :
    Carries SubsystemRequest.format request request :=
  ⟨string request.name, appends_putString _, (reads_string _ nameShort).finish _⟩

theorem carries_env (request : EnvRequest) (nameShort : Short (utf8 request.name))
    (valueShort : Short (utf8 request.value)) : Carries EnvRequest.format request request := by
  refine ⟨string request.name ++ string request.value, ?_, ?_⟩
  · exact (appends_putString _).seq (appends_putString _)
  · exact (reads_string _ nameShort).bind <| (reads_string _ valueShort).finish _

theorem carries_tunnel (target : TunnelOpen) (hostShort : Short (utf8 target.host))
    (originatorShort : Short (utf8 target.originatorHost)) :
    Carries TunnelOpen.format target target := by
  refine ⟨string target.host ++ (uint32 target.port ++ (string target.originatorHost ++
    uint32 target.originatorPort)), ?_, ?_⟩
  · exact (appends_putString _).seq <| (appends_putUInt32 _).seq <| (appends_putString _).seq <|
      appends_putUInt32 _
  · exact (reads_string _ hostShort).bind <| (reads_uint32 _ _).bind <|
      (reads_string _ originatorShort).bind <| (reads_uint32 _ _).finish _

theorem carries_display (origin : DisplayOpen)
    (originatorShort : Short (utf8 origin.originatorHost)) :
    Carries DisplayOpen.format origin origin := by
  refine ⟨string origin.originatorHost ++ uint32 origin.originatorPort, ?_, ?_⟩
  · exact (appends_putString _).seq (appends_putUInt32 _)
  · exact (reads_string _ originatorShort).bind <| (reads_uint32 _ _).finish _

theorem carries_forward (request : ForwardRequest) (addressShort : Short (utf8 request.address)) :
    Carries ForwardRequest.format request request := by
  refine ⟨string request.address ++ uint32 request.port, ?_, ?_⟩
  · exact (appends_putString _).seq (appends_putUInt32 _)
  · exact (reads_string _ addressShort).bind <| (reads_uint32 _ _).finish _

namespace Kind

/-- A value whose strings and encoded mode list are all short enough for their counts. -/
def Fits : (kind : Kind) → kind.Value → Prop
  | .pty, request => Short (utf8 request.term) ∧ Short (modeList request.modes)
  | .windowChange, _ => True
  | .signal, request => Short (utf8 request.name)
  | .exec, request => Short (utf8 request.command)
  | .subsystem, request => Short (utf8 request.name)
  | .env, request => Short (utf8 request.name) ∧ Short (utf8 request.value)
  | .tunnel, target => Short (utf8 target.host) ∧ Short (utf8 target.originatorHost)
  | .display, origin => Short (utf8 origin.originatorHost)
  | .forward, request => Short (utf8 request.address)

/-- What comes back of a value: the value itself, but for the modes of a terminal. -/
def received : (kind : Kind) → kind.Value → kind.Value
  | .pty, request => { request with modes := wellFormedModes request.modes }
  | .windowChange, change => change
  | .signal, request => request
  | .exec, request => request
  | .subsystem, request => request
  | .env, request => request
  | .tunnel, target => target
  | .display, origin => origin
  | .forward, request => request

theorem carries (kind : Kind) (value : kind.Value) (fits : kind.Fits value) :
    Carries kind.format value (kind.received value) := by
  cases kind with
  | pty => exact carries_pty value fits.1 fits.2
  | windowChange => exact carries_windowChange value
  | signal => exact carries_signal value fits
  | exec => exact carries_exec value fits
  | subsystem => exact carries_subsystem value fits
  | env => exact carries_env value fits.1 fits.2
  | tunnel => exact carries_tunnel value fits.1 fits.2
  | display => exact carries_display value fits
  | forward => exact carries_forward value fits

/-- What is written of a value that fits is read to its last byte. -/
theorem decode_of_fits (kind : Kind) {value : kind.Value} (fits : kind.Fits value) :
    kind.format.decode (kind.format.write value) = .ok (kind.received value, []) := by
  obtain ⟨content, appends, reads⟩ := kind.carries value fits
  have written : kind.format.write value = content := by
    rw [Format.write, appends []]
    rfl
  rw [written, Format.decode, ← List.append_nil content]
  exact reads []

/-- **Reading undoes writing.** Writing a value appends its bytes to whatever the buffer holds, the
same bytes for every buffer. Whatever follows these bytes, they are read back as the value, and
exactly they are consumed. -/
theorem decode_write (kind : Kind) (value : kind.Value) (fits : kind.Fits value)
    (buffer rest : List UInt8) :
    (kind.format.encode value).run buffer = ((), buffer ++ kind.format.write value) ∧
      kind.format.decode (kind.format.write value ++ rest) =
        .ok (kind.received value, rest) := by
  obtain ⟨content, appends, reads⟩ := kind.carries value fits
  have written : kind.format.write value = content := by
    rw [Format.write, appends []]
    rfl
  rw [written]
  exact ⟨appends buffer, reads rest⟩

/-- A terminal with modes that do not all come back, written behind other bytes and
before others. -/
theorem decode_write_modes :
    let request : PtyRequest :=
      ⟨"vt100", 80, 24, 0, 0, [(1, 3), (0, 7), (53, 1), (160, 0), (2, 2)]⟩
    Kind.pty.Fits request ∧
      (PtyRequest.format.encode request).run [7] =
        ((), [7] ++ PtyRequest.format.write request) ∧
      PtyRequest.format.decode (PtyRequest.format.write request ++ [9, 9]) =
        .ok (⟨"vt100", 80, 24, 0, 0, [(1, 3), (53, 1)]⟩, [9, 9]) := by
  intro request
  have fits : Kind.pty.Fits request := by
    constructor <;> decide
  exact ⟨fits, decode_write .pty request fits [7] [9, 9]⟩

end Kind

end SshServer.Wire
