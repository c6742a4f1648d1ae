import SshServer.Proofs.Wire.RoundTrip

/-!
Contract: the grammar of payloads, and that exactly what it describes is read.

Owns: what may stand at the front of a byte string in the place of a field; the fields of every
payload in the order of the wire; and what a byte string is by these fields, either values and what
is left behind them or the first field that cannot be read.
Does not own: how values are written (`Proofs.Wire.RoundTrip`).

The grammar speaks of bytes alone and knows nothing of the readers. It describes every byte string
in exactly one way, which is shown by running the readers on what it describes.
-/

namespace SshServer.Wire

/-! ### The grammar -/

/-- The number that bytes stand for, the most significant first. -/
def bigEndian (bytes : List UInt8) : Nat :=
  bytes.foldl (fun number byte => number * 256 + byte.toNat) 0

/-- The modes that an encoded list holds. It is cut short by an entry that is not there in full, and
ends with a code of zero or one above 159. -/
inductive ModesIn : List UInt8 → List (UInt8 × UInt32) → Prop where
  | cut {content : List UInt8} (short : content.length < 5) : ModesIn content []
  | stop {code : UInt8} {rest : List UInt8} (last : code.toNat = 0 ∨ 159 < code.toNat) :
      ModesIn (code :: rest) []
  | entry {code : UInt8} {argument rest : List UInt8} {value : UInt32}
      {modes : List (UInt8 × UInt32)} (coded : 0 < code.toNat ∧ code.toNat ≤ 159)
      (four : argument.length = 4) (worth : bigEndian argument = value.toNat)
      (others : ModesIn rest modes) :
      ModesIn (code :: (argument ++ rest)) ((code, value) :: modes)

/-- What a field is made of. -/
inductive FieldShape where
  | number
  | text
  /-- A number that older peers leave out. -/
  | optionalNumber
  /-- A list of modes that older peers leave out. -/
  | optionalModes
deriving DecidableEq

def FieldShape.required : FieldShape → Bool
  | .number | .text => true
  | .optionalNumber | .optionalModes => false

inductive FieldValue where
  | number (value : UInt32)
  | text (value : String)
  | modes (entries : List (UInt8 × UInt32))

/-- What is found in the place of a field. -/
inductive Finding where
  /-- A value, and what is left behind it. -/
  | found (value : FieldValue) (rest : List UInt8)
  /-- Bytes are missing, be it of a number, of a length or of what the length announces. -/
  | truncated
  /-- All bytes are there, but they are no text. -/
  | notText

/-- What stands at the front of a byte string in the place of a field. A number is four bytes; a
text is a length of four bytes and as many bytes of UTF-8. Of what older peers leave out nothing is
missing: it counts as zero or empty, and only a length that is there in full is passed over. -/
inductive Finds : FieldShape → List UInt8 → Finding → Prop where
  | number {front rest : List UInt8} {value : UInt32} (four : front.length = 4)
      (worth : bigEndian front = value.toNat) :
      Finds .number (front ++ rest) (.found (.number value) rest)
  | numberCut {input : List UInt8} (short : input.length < 4) : Finds .number input .truncated
  | text {count rest : List UInt8} {value : String} (four : count.length = 4)
      (counted : bigEndian count = (utf8 value).length) :
      Finds .text (count ++ (utf8 value ++ rest)) (.found (.text value) rest)
  | notText {count content rest : List UInt8} (four : count.length = 4)
      (counted : bigEndian count = content.length)
      (invalid : ¬content.toByteArray.IsValidUTF8) :
      Finds .text (count ++ (content ++ rest)) .notText
  | textCut {count content : List UInt8} (four : count.length = 4)
      (cut : content.length < bigEndian count) : Finds .text (count ++ content) .truncated
  | textUncounted {input : List UInt8} (short : input.length < 4) : Finds .text input .truncated
  | optionalNumber {front rest : List UInt8} {value : UInt32} (four : front.length = 4)
      (worth : bigEndian front = value.toNat) :
      Finds .optionalNumber (front ++ rest) (.found (.number value) rest)
  | numberLeftOut {input : List UInt8} (short : input.length < 4) :
      Finds .optionalNumber input (.found (.number 0) input)
  | modes {count content rest : List UInt8} {entries : List (UInt8 × UInt32)}
      (four : count.length = 4) (counted : bigEndian count = content.length)
      (listed : ModesIn content entries) :
      Finds .optionalModes (count ++ (content ++ rest)) (.found (.modes entries) rest)
  | modesCut {count content : List UInt8} (four : count.length = 4)
      (cut : content.length < bigEndian count) :
      Finds .optionalModes (count ++ content) (.found (.modes []) content)
  | modesLeftOut {input : List UInt8} (short : input.length < 4) :
      Finds .optionalModes input (.found (.modes []) input)

/-- A field, and the name under which it is reported. -/
structure PayloadField where
  name : String
  shape : FieldShape

/-- What a byte string is by the fields of a payload: their values with what is left behind the last
of them, or the failure of the first one that cannot be read. -/
inductive Parses : List PayloadField → List UInt8 →
    Except WireFailure (List FieldValue × List UInt8) → Prop where
  | done {input : List UInt8} : Parses [] input (.ok ([], input))
  | truncated {field : PayloadField} {fields : List PayloadField} {input : List UInt8}
      (finds : Finds field.shape input .truncated) :
      Parses (field :: fields) input (.error (.truncated field.name))
  | notText {field : PayloadField} {fields : List PayloadField} {input : List UInt8}
      (finds : Finds field.shape input .notText) :
      Parses (field :: fields) input (.error (.invalidUtf8 field.name))
  | fails {field : PayloadField} {fields : List PayloadField} {input rest : List UInt8}
      {value : FieldValue} {failure : WireFailure}
      (finds : Finds field.shape input (.found value rest))
      (later : Parses fields rest (.error failure)) :
      Parses (field :: fields) input (.error failure)
  | found {field : PayloadField} {fields : List PayloadField} {input rest left : List UInt8}
      {value : FieldValue} {values : List FieldValue}
      (finds : Finds field.shape input (.found value rest))
      (later : Parses fields rest (.ok (values, left))) :
      Parses (field :: fields) input (.ok (value :: values, left))

namespace Kind

/-- The fields of a payload, in the order of the wire. -/
def fields : Kind → List PayloadField
  | .pty =>
    [⟨"term", .text⟩, ⟨"width", .number⟩, ⟨"height", .number⟩, ⟨"pixel width", .optionalNumber⟩,
      ⟨"pixel height", .optionalNumber⟩, ⟨"modes", .optionalModes⟩]
  | .windowChange =>
    [⟨"width", .number⟩, ⟨"height", .number⟩, ⟨"pixel width", .optionalNumber⟩,
      ⟨"pixel height", .optionalNumber⟩]
  | .signal => [⟨"signal name", .text⟩]
  | .exec => [⟨"command", .text⟩]
  | .subsystem => [⟨"subsystem name", .text⟩]
  | .env => [⟨"variable name", .text⟩, ⟨"variable value", .text⟩]
  | .tunnel =>
    [⟨"host", .text⟩, ⟨"port", .number⟩, ⟨"originator host", .text⟩, ⟨"originator port", .number⟩]
  | .display => [⟨"originator host", .text⟩, ⟨"originator port", .number⟩]
  | .forward => [⟨"bind address", .text⟩, ⟨"bind port", .number⟩]

/-- The values of the fields of a payload, in the order of the wire. -/
def values : (kind : Kind) → kind.Value → List FieldValue
  | .pty, request =>
    [.text request.term, .number request.width, .number request.height,
      .number request.pixelWidth, .number request.pixelHeight, .modes request.modes]
  | .windowChange, change =>
    [.number change.width, .number change.height, .number change.pixelWidth,
      .number change.pixelHeight]
  | .signal, request => [.text request.name]
  | .exec, request => [.text request.command]
  | .subsystem, request => [.text request.name]
  | .env, request => [.text request.name, .text request.value]
  | .tunnel, target =>
    [.text target.host, .number target.port, .text target.originatorHost,
      .number target.originatorPort]
  | .display, origin => [.text origin.originatorHost, .number origin.originatorPort]
  | .forward, request => [.text request.address, .number request.port]

/-- Whether peers may leave out none of the fields. -/
def strict (kind : Kind) : Prop :=
  ∀ field ∈ kind.fields, field.shape.required = true

instance (kind : Kind) : Decidable kind.strict :=
  inferInstanceAs (Decidable (∀ field ∈ kind.fields, field.shape.required = true))

/-- The values of the fields that no peer may leave out. -/
def required : (kind : Kind) → kind.Value → List FieldValue
  | .pty, request => [.text request.term, .number request.width, .number request.height]
  | .windowChange, change => [.number change.width, .number change.height]
  | kind, value => kind.values value

theorem values_injective (kind : Kind) {first second : kind.Value}
    (same : kind.values first = kind.values second) : first = second := by
  cases kind <;> cases first <;> cases second <;> simp_all [values]

end Kind

/-! ### Numbers and modes -/

theorem bigEndian_four (b₃ b₂ b₁ b₀ : UInt8) :
    bigEndian [b₃, b₂, b₁, b₀] = (toUInt32 b₃ b₂ b₁ b₀).toNat := by
  have small₃ := b₃.toNat_lt
  have small₂ := b₂.toNat_lt
  have small₁ := b₁.toNat_lt
  have small₀ := b₀.toNat_lt
  simp only [bigEndian, List.foldl_cons, List.foldl_nil, toUInt32, UInt32.toNat_ofNat']
  omega

theorem uint32?_of_front {front : List UInt8} {value : UInt32} (four : front.length = 4)
    (worth : bigEndian front = value.toNat) (rest : List UInt8) :
    uint32? (front ++ rest) = some (value, rest) := by
  match front, four with
  | [b₃, b₂, b₁, b₀], _ =>
    rw [bigEndian_four] at worth
    rw [← UInt32.toNat_inj.1 worth]
    rfl

theorem uint32?_of_short {input : List UInt8} (short : input.length < 4) :
    uint32? input = none := by
  match input, short with
  | [], _ | [_], _ | [_, _], _ | [_, _, _], _ => rfl

/-- Four bytes are some number. -/
theorem exists_worth {front : List UInt8} (four : front.length = 4) :
    ∃ value : UInt32, bigEndian front = value.toNat := by
  match front, four with
  | [b₃, b₂, b₁, b₀], _ => exact ⟨toUInt32 b₃ b₂ b₁ b₀, bigEndian_four b₃ b₂ b₁ b₀⟩

theorem exists_front {input : List UInt8} (enough : 4 ≤ input.length) :
    ∃ front rest, front.length = 4 ∧ input = front ++ rest :=
  ⟨input.take 4, input.drop 4, by rw [List.length_take, Nat.min_eq_left enough],
    (List.take_append_drop 4 input).symm⟩

theorem split?_of_counted {count : Nat} {content : List UInt8} (counted : count = content.length)
    (rest : List UInt8) : split? count (content ++ rest) = some (content, rest) := by
  rw [counted, split?_append]

theorem split?_of_cut {count : Nat} {content : List UInt8} (cut : content.length < count) :
    split? count content = none :=
  if_pos cut

theorem ends_list_iff (code : UInt8) :
    (code = modesEnd ∨ code > lastModeWithArgument) ↔ (code.toNat = 0 ∨ 159 < code.toNat) := by
  have isEnd : code = modesEnd ↔ code.toNat = 0 := UInt8.toNat_inj.symm
  have isLarge : code > lastModeWithArgument ↔ 159 < code.toNat := UInt8.lt_iff_toNat_lt
  rw [isEnd, isLarge]

theorem readModeList_of_modesIn {content : List UInt8} {modes : List (UInt8 × UInt32)}
    (listed : ModesIn content modes) : readModeList content = modes := by
  induction listed with
  | @cut content short =>
      match content, short with
      | [], _ | [_], _ | [_, _], _ | [_, _, _], _ | [_, _, _, _], _ => rfl
  | @stop code rest last =>
      match rest with
      | [] | [_] | [_, _] | [_, _, _] => rfl
      | b₃ :: b₂ :: b₁ :: b₀ :: rest => exact if_pos ((ends_list_iff code).2 last)
  | @entry code argument rest value modes coded four worth _ inductionHypothesis =>
      match argument, four with
      | [b₃, b₂, b₁, b₀], _ =>
        have goesOn : ¬(code = modesEnd ∨ code > lastModeWithArgument) := by
          rw [ends_list_iff]
          omega
        rw [bigEndian_four] at worth
        show (if _ then [] else (code, toUInt32 b₃ b₂ b₁ b₀) :: readModeList rest) = _
        rw [if_neg goesOn, inductionHypothesis, UInt32.toNat_inj.1 worth]

/-- Every byte string is a list of modes, if of none. -/
theorem modesIn_readModeList (content : List UInt8) : ModesIn content (readModeList content) := by
  fun_induction readModeList content with
  | case1 code b₃ b₂ b₁ b₀ rest last => exact .stop ((ends_list_iff code).1 last)
  | case2 code b₃ b₂ b₁ b₀ rest goesOn inductionHypothesis =>
      rw [ends_list_iff] at goesOn
      exact @ModesIn.entry code [b₃, b₂, b₁, b₀] rest _ _ ⟨by omega, by omega⟩ rfl
        (bigEndian_four b₃ b₂ b₁ b₀) inductionHypothesis
  | case3 content noEntry =>
      apply ModesIn.cut
      match content with
      | [] | [_] | [_, _] | [_, _, _] | [_, _, _, _] => simp
      | code :: b₃ :: b₂ :: b₁ :: b₀ :: rest => exact (noEntry code b₃ b₂ b₁ b₀ rest rfl).elim

/-! ### Readers follow the grammar -/

/-- What the reader of a field named `name` makes of a finding. -/
def Finding.result (name : String) : Finding → Except WireFailure (FieldValue × List UInt8)
  | .found value rest => .ok (value, rest)
  | .truncated => .error (.truncated name)
  | .notText => .error (.invalidUtf8 name)

def PayloadField.read (field : PayloadField) : Reader FieldValue :=
  match field.shape with
  | .number => .number <$> readUInt32 field.name
  | .text => .text <$> readString field.name
  | .optionalNumber => .number <$> readOptionalUInt32
  | .optionalModes => (fun content => .modes (readModeList content)) <$> readOptionalBytes

/-- Reads fields one after another. -/
def readFields : List PayloadField → Reader (List FieldValue)
  | [] => pure []
  | field :: fields => do
    let value ← field.read
    let values ← readFields fields
    return value :: values

section Fields

variable {name : String} {input count content rest : List UInt8}

theorem run_readUInt32_of_short (short : input.length < 4) :
    StateT.run (readUInt32 name) input = .error (.truncated name) := by
  simp only [StateT.run, readUInt32, uint32?_of_short short]

theorem run_readBytes_of_short (short : input.length < 4) :
    StateT.run (readBytes name) input = .error (.truncated name) := by
  rw [readBytes, StateT.run_bind, run_readUInt32_of_short short]
  rfl

theorem run_readBytes_of_counted (four : count.length = 4)
    (counted : bigEndian count = content.length) :
    StateT.run (readBytes name) (count ++ (content ++ rest)) = .ok (content, rest) := by
  obtain ⟨value, worth⟩ := exists_worth four
  exact run_readBytes (uint32?_of_front four worth _)
    (split?_of_counted (worth.symm.trans counted) rest)

theorem run_readBytes_of_cut (four : count.length = 4) (cut : content.length < bigEndian count) :
    StateT.run (readBytes name) (count ++ content) = .error (.truncated name) := by
  obtain ⟨value, worth⟩ := exists_worth four
  rw [readBytes, StateT.run_bind, run_readUInt32 (uint32?_of_front four worth content)]
  simp only [StateT.run, bind, Except.bind, split?_of_cut (worth ▸ cut)]

theorem run_readString_of_text {text : String} (four : count.length = 4)
    (counted : bigEndian count = (utf8 text).length) :
    StateT.run (readString name) (count ++ (utf8 text ++ rest)) = .ok (text, rest) := by
  rw [readString, StateT.run_bind, run_readBytes_of_counted four counted]
  simp only [bind, Except.bind, fromUTF8?_utf8]
  rfl

theorem run_readString_of_notText (four : count.length = 4)
    (counted : bigEndian count = content.length)
    (invalid : ¬content.toByteArray.IsValidUTF8) :
    StateT.run (readString name) (count ++ (content ++ rest)) = .error (.invalidUtf8 name) := by
  have noText : String.fromUTF8? content.toByteArray = none := dif_neg invalid
  rw [readString, StateT.run_bind, run_readBytes_of_counted four counted]
  simp only [bind, Except.bind, noText]
  rfl

theorem run_readString_of_error {failure : WireFailure}
    (failed : StateT.run (readBytes name) input = .error failure) :
    StateT.run (readString name) input = .error failure := by
  rw [readString, StateT.run_bind, failed]
  rfl

theorem run_readOptionalUInt32_of_short (short : input.length < 4) :
    StateT.run readOptionalUInt32 input = .ok (0, input) := by
  simp only [StateT.run, readOptionalUInt32, uint32?_of_short short]

theorem run_readOptionalBytes_of_counted (four : count.length = 4)
    (counted : bigEndian count = content.length) :
    StateT.run readOptionalBytes (count ++ (content ++ rest)) = .ok (content, rest) := by
  obtain ⟨value, worth⟩ := exists_worth four
  exact run_readOptionalBytes (uint32?_of_front four worth _)
    (split?_of_counted (worth.symm.trans counted) rest)

theorem run_readOptionalBytes_of_cut (four : count.length = 4)
    (cut : content.length < bigEndian count) :
    StateT.run readOptionalBytes (count ++ content) = .ok ([], content) := by
  obtain ⟨value, worth⟩ := exists_worth four
  simp only [StateT.run, readOptionalBytes, uint32?_of_front four worth content,
    split?_of_cut (worth ▸ cut)]

theorem run_readOptionalBytes_of_short (short : input.length < 4) :
    StateT.run readOptionalBytes input = .ok ([], input) := by
  simp only [StateT.run, readOptionalBytes, uint32?_of_short short]

variable {α β : Type} {reader : Reader α}

theorem run_map_of_ok {value : α} (make : α → β) (ran : reader.run input = .ok (value, rest)) :
    (make <$> reader).run input = .ok (make value, rest) := by
  rw [StateT.run_map, ran]
  rfl

theorem run_map_of_error {failure : WireFailure} (make : α → β)
    (failed : reader.run input = .error failure) :
    (make <$> reader).run input = .error failure := by
  rw [StateT.run_map, failed]
  rfl

end Fields

/-- What the grammar finds, the reader of the field finds. -/
theorem Finds.read {field : PayloadField} {input : List UInt8} {finding : Finding}
    (finds : Finds field.shape input finding) :
    field.read.run input = finding.result field.name := by
  obtain ⟨name, shape⟩ := field
  cases finds with
  | number four worth => exact run_map_of_ok _ (run_readUInt32 (uint32?_of_front four worth _))
  | numberCut short => exact run_map_of_error _ (run_readUInt32_of_short short)
  | text four counted => exact run_map_of_ok _ (run_readString_of_text four counted)
  | notText four counted invalid =>
      exact run_map_of_error _ (run_readString_of_notText four counted invalid)
  | textCut four cut =>
      exact run_map_of_error _ (run_readString_of_error (run_readBytes_of_cut four cut))
  | textUncounted short =>
      exact run_map_of_error _ (run_readString_of_error (run_readBytes_of_short short))
  | optionalNumber four worth =>
      exact run_map_of_ok _ (run_readOptionalUInt32 (uint32?_of_front four worth _))
  | numberLeftOut short => exact run_map_of_ok _ (run_readOptionalUInt32_of_short short)
  | modes four counted listed =>
      rw [← readModeList_of_modesIn listed]
      exact run_map_of_ok _ (run_readOptionalBytes_of_counted four counted)
  | modesCut four cut => exact run_map_of_ok _ (run_readOptionalBytes_of_cut four cut)
  | modesLeftOut short => exact run_map_of_ok _ (run_readOptionalBytes_of_short short)

theorem Finding.result_injective {name : String} {first second : Finding}
    (same : first.result name = second.result name) : first = second := by
  cases first <;> cases second <;> simp_all [result]

theorem Finds.unique {shape : FieldShape} {input : List UInt8} {first second : Finding}
    (finds : Finds shape input first) (alsoFinds : Finds shape input second) : first = second := by
  have read : (PayloadField.mk "" shape).read.run input = first.result "" := Finds.read finds
  have alsoRead : (PayloadField.mk "" shape).read.run input = second.result "" :=
    Finds.read alsoFinds
  exact Finding.result_injective (read.symm.trans alsoRead)

/-- Bytes that are text are the bytes of one. -/
theorem exists_text {content : List UInt8} (valid : content.toByteArray.IsValidUTF8) :
    ∃ text, utf8 text = content := by
  refine ⟨String.fromUTF8 content.toByteArray valid, ?_⟩
  simp [utf8, String.fromUTF8]

/-- Whatever the bytes are, the length of a text is there in full or not, what it announces is there
or not, and is text or not. -/
theorem exists_counted (input : List UInt8) :
    input.length < 4 ∨
      (∃ count content, count.length = 4 ∧ content.length < bigEndian count ∧
        input = count ++ content) ∨
      ∃ count content rest, count.length = 4 ∧ bigEndian count = content.length ∧
        input = count ++ (content ++ rest) := by
  by_cases short : input.length < 4
  · exact .inl short
  · obtain ⟨count, tail, four, rfl⟩ := exists_front (Nat.le_of_not_lt short)
    by_cases cut : tail.length < bigEndian count
    · exact .inr (.inl ⟨count, tail, four, cut, rfl⟩)
    · refine .inr (.inr ⟨count, tail.take (bigEndian count), tail.drop (bigEndian count), four,
        ?_, ?_⟩)
      · rw [List.length_take, Nat.min_eq_left (Nat.le_of_not_lt cut)]
      · rw [List.take_append_drop]

/-- The grammar leaves no byte string out. -/
theorem exists_finds (shape : FieldShape) (input : List UInt8) :
    ∃ finding, Finds shape input finding := by
  rcases exists_counted input with short | ⟨count, content, four, cut, rfl⟩ |
    ⟨count, content, rest, four, counted, rfl⟩
  · cases shape with
    | number => exact ⟨_, .numberCut short⟩
    | text => exact ⟨_, .textUncounted short⟩
    | optionalNumber => exact ⟨_, .numberLeftOut short⟩
    | optionalModes => exact ⟨_, .modesLeftOut short⟩
  · obtain ⟨value, worth⟩ := exists_worth four
    cases shape with
    | number => exact ⟨_, .number four worth⟩
    | text => exact ⟨_, .textCut four cut⟩
    | optionalNumber => exact ⟨_, .optionalNumber four worth⟩
    | optionalModes => exact ⟨_, .modesCut four cut⟩
  · obtain ⟨value, worth⟩ := exists_worth four
    cases shape with
    | number => exact ⟨_, .number four worth⟩
    | text =>
        by_cases valid : content.toByteArray.IsValidUTF8
        · obtain ⟨text, rfl⟩ := exists_text valid
          exact ⟨_, .text four counted⟩
        · exact ⟨_, .notText four counted valid⟩
    | optionalNumber => exact ⟨_, .optionalNumber four worth⟩
    | optionalModes => exact ⟨_, .modes four counted (modesIn_readModeList content)⟩

theorem run_readFields_of_found {field : PayloadField} {fields : List PayloadField}
    {input rest : List UInt8} {value : FieldValue}
    (finds : Finds field.shape input (.found value rest)) :
    (readFields (field :: fields)).run input =
      ((readFields fields).run rest).map fun later => (value :: later.1, later.2) := by
  rw [readFields, StateT.run_bind, finds.read]
  show (do let values ← readFields fields; pure (value :: values) : Reader _).run rest = _
  rw [StateT.run_bind]
  rfl

theorem Parses.readFields {fields : List PayloadField} {input : List UInt8}
    {outcome : Except WireFailure (List FieldValue × List UInt8)}
    (parses : Parses fields input outcome) : (readFields fields).run input = outcome := by
  induction parses with
  | done => rfl
  | truncated finds =>
      rw [Wire.readFields, StateT.run_bind, finds.read]
      rfl
  | notText finds =>
      rw [Wire.readFields, StateT.run_bind, finds.read]
      rfl
  | fails finds _ inductionHypothesis =>
      rw [run_readFields_of_found finds, inductionHypothesis]
      rfl
  | found finds _ inductionHypothesis =>
      rw [run_readFields_of_found finds, inductionHypothesis]
      rfl

theorem exists_parses (fields : List PayloadField) (input : List UInt8) :
    ∃ outcome, Parses fields input outcome := by
  induction fields generalizing input with
  | nil => exact ⟨_, .done⟩
  | cons field fields inductionHypothesis =>
      obtain ⟨finding, finds⟩ := exists_finds field.shape input
      cases finding with
      | truncated => exact ⟨_, .truncated finds⟩
      | notText => exact ⟨_, .notText finds⟩
      | found value rest =>
          obtain ⟨outcome, later⟩ := inductionHypothesis rest
          match outcome, later with
          | .error failure, later => exact ⟨_, .fails finds later⟩
          | .ok (values, left), later => exact ⟨_, .found finds later⟩

/-- What a byte string is by the grammar is what reading its fields gives, and nothing else. -/
theorem parses_iff {fields : List PayloadField} {input : List UInt8}
    {outcome : Except WireFailure (List FieldValue × List UInt8)} :
    Parses fields input outcome ↔ (readFields fields).run input = outcome := by
  constructor
  · exact Parses.readFields
  · intro ran
    obtain ⟨other, parses⟩ := exists_parses fields input
    rwa [← parses.readFields.symm.trans ran]

namespace Kind

/-- The readers of payloads read their fields one after another. -/
theorem values_read (kind : Kind) : kind.values <$> kind.format.read = readFields kind.fields := by
  cases kind <;>
    simp [format, values, fields, readFields, PayloadField.read, PtyRequest.format,
      WindowChange.format, SignalRequest.format, ExecRequest.format, SubsystemRequest.format,
      EnvRequest.format, TunnelOpen.format, DisplayOpen.format, ForwardRequest.format]

theorem run_readFields (kind : Kind) (input : List UInt8) :
    (readFields kind.fields).run input =
      (kind.format.decode input).map fun found => (kind.values found.1, found.2) := by
  rw [← kind.values_read, StateT.run_map]
  rfl

theorem decode_ok_iff {kind : Kind} {input rest : List UInt8} {value : kind.Value} :
    kind.format.decode input = .ok (value, rest) ↔
      Parses kind.fields input (.ok (kind.values value, rest)) := by
  rw [parses_iff, run_readFields]
  cases decoded : kind.format.decode input with
  | error failure => exact ⟨nofun, nofun⟩
  | ok found =>
      simp only [Except.map, Except.ok.injEq, Prod.ext_iff]
      exact and_congr_left fun _ => ⟨fun same => same ▸ rfl, fun same => kind.values_injective same⟩

theorem decode_error_iff {kind : Kind} {input : List UInt8} {failure : WireFailure} :
    kind.format.decode input = .error failure ↔ Parses kind.fields input (.error failure) := by
  rw [parses_iff, run_readFields]
  cases decoded : kind.format.decode input with
  | error failure => exact ⟨fun same => same ▸ rfl, fun same => by simpa [Except.map] using same⟩
  | ok found => exact ⟨nofun, nofun⟩

end Kind

end SshServer.Wire
