import SshServer.Proofs.Wire.Grammar

/-!
Contract: writing undoes reading, on what was read.

Owns: what the value of a field is written as, which values come back as they were, and that
whatever is read, be it of hostile bytes, comes back when it is written again: always as the same
value, and where no field was left out as the same bytes.
Does not own: what is read at all (`Proofs.Wire.Grammar`), and the way from a value to bytes and
back (`Proofs.Wire.RoundTrip`).

The modes of a terminal are the one part that is written in another form than it was read in: an
encoded list need not end with the end code, and what follows its end is not kept. So the written
list may be longer by one byte, for which the bound on the length of the input leaves room.
-/

namespace SshServer.Wire

namespace FieldValue

def write : FieldValue → List UInt8
  | .number value => uint32 value
  | .text value => string value
  | .modes entries => bytes (modeList entries)

/-- A value that comes back as it was when it is written and read. -/
def Returns : FieldValue → Prop
  | .number _ => True
  | .text value => Short (utf8 value)
  | .modes entries => Short (modeList entries) ∧ wellFormedModes entries = entries

end FieldValue

namespace Kind

/-- A payload is written as its fields, one after another. -/
theorem write_eq (kind : Kind) (value : kind.Value) :
    kind.format.write value = (kind.values value).flatMap FieldValue.write := by
  cases kind
  all_goals
    simp [format, values, FieldValue.write, Format.write, PtyRequest.format, WindowChange.format,
      SignalRequest.format, ExecRequest.format, SubsystemRequest.format, EnvRequest.format,
      TunnelOpen.format, DisplayOpen.format, ForwardRequest.format, putString, putBytes,
      putUInt32, put, string, bytes]
    rfl

/-- A payload comes back as it was if its fields do. -/
theorem fits_of_returns (kind : Kind) {value : kind.Value}
    (returns : ∀ item ∈ kind.values value, item.Returns) :
    kind.Fits value ∧ kind.received value = value := by
  cases kind <;> simp_all [values, FieldValue.Returns, Fits, received]

end Kind

/-! ### Fields -/

theorem eq_uint32_of_worth {front : List UInt8} {value : UInt32} (four : front.length = 4)
    (worth : bigEndian front = value.toNat) : front = uint32 value := by
  match front, four with
  | [b₃, b₂, b₁, b₀], _ =>
    rw [bigEndian_four, UInt32.toNat_inj] at worth
    rw [← worth, uint32_toUInt32]

theorem bigEndian_lt {front : List UInt8} (four : front.length = 4) :
    bigEndian front < UInt32.size := by
  obtain ⟨value, worth⟩ := exists_worth four
  rw [worth]
  exact value.toNat_lt

/-- A field that may not be left out, or a number that is there, is written as it was read. -/
theorem Finds.eq_write {shape : FieldShape} {input rest : List UInt8} {value : FieldValue}
    (finds : Finds shape input (.found value rest))
    (isThere : shape.required = true ∨ shape = .optionalNumber ∧ 4 ≤ input.length) :
    input = value.write ++ rest := by
  cases finds with
  | number four worth | optionalNumber four worth =>
      rw [eq_uint32_of_worth four worth]
      rfl
  | @text count rest text four counted =>
      have small : (utf8 text).length < UInt32.size := counted ▸ bigEndian_lt four
      have written : count = uint32 (UInt32.ofNat (utf8 text).length) := by
        apply eq_uint32_of_worth four
        rw [counted, UInt32.toNat_ofNat', Nat.mod_eq_of_lt small]
      rw [written]
      exact (List.append_assoc _ _ _).symm
  | numberLeftOut short =>
      rcases isThere with required | ⟨-, enough⟩
      · exact absurd required Bool.false_ne_true
      · omega
  | modes | modesCut | modesLeftOut =>
      rcases isThere with required | ⟨same, -⟩
      · exact absurd required Bool.false_ne_true
      · exact absurd same nofun

/-- The modes in a list come back as they are, and take at most one byte more than the list. -/
theorem ModesIn.returns {content : List UInt8} {modes : List (UInt8 × UInt32)}
    (listed : ModesIn content modes) :
    wellFormedModes modes = modes ∧ (modeList modes).length ≤ content.length + 1 := by
  induction listed with
  | cut | stop => exact ⟨rfl, Nat.le_add_left _ _⟩
  | @entry code argument rest value modes coded four _ _ inductionHypothesis =>
      obtain ⟨kept, notLonger⟩ := inductionHypothesis
      have notEnd : code ≠ modesEnd := by
        intro isEnd
        have isZero : code.toNat = 0 := congrArg UInt8.toNat isEnd
        omega
      have small : code ≤ lastModeWithArgument := UInt8.le_iff_toNat_le.2 coded.2
      constructor
      · rw [wellFormedModes] at kept
        simp [wellFormedModes, notEnd, small, kept]
      · rw [modeList, if_neg notEnd]
        simp only [List.length_cons, List.length_append, length_uint32, four]
        omega

/-- Whatever is read off a short input comes back as it was. -/
theorem Finds.returns {shape : FieldShape} {input rest : List UInt8} {value : FieldValue}
    (finds : Finds shape input (.found value rest)) (inputShort : Short input) :
    value.Returns ∧ Short rest := by
  have smaller {part : List UInt8} (notLonger : part.length ≤ input.length) : Short part :=
    Nat.lt_of_le_of_lt notLonger inputShort
  cases finds with
  | number | optionalNumber => exact ⟨trivial, smaller (by simp)⟩
  | numberLeftOut => exact ⟨trivial, inputShort⟩
  | @text count _ text four counted => exact ⟨smaller (by simp; omega), smaller (by simp; omega)⟩
  | @modes count content _ entries four counted listed =>
      obtain ⟨kept, notLonger⟩ := listed.returns
      refine ⟨⟨smaller ?_, kept⟩, smaller (by simp; omega)⟩
      simp only [List.length_append]
      omega
  | modesCut | modesLeftOut => exact ⟨⟨by decide, rfl⟩, smaller (by simp)⟩

/-! ### Payloads -/

section Payloads

variable {fields : List PayloadField} {input left : List UInt8} {values : List FieldValue}

theorem Parses.returns (parses : Parses fields input (.ok (values, left)))
    (inputShort : Short input) : ∀ value ∈ values, value.Returns := by
  induction fields generalizing input values with
  | nil =>
      cases parses
      exact fun _ member => absurd member List.not_mem_nil
  | cons field fields inductionHypothesis =>
      cases parses with
      | found finds later =>
          obtain ⟨returns, restShort⟩ := finds.returns inputShort
          intro value member
          rcases List.mem_cons.1 member with rfl | isLater
          · exact returns
          · exact inductionHypothesis later restShort value isLater

/-- Fields that may not be left out are written as they were read. -/
theorem Parses.eq_write (parses : Parses fields input (.ok (values, left)))
    (required : ∀ field ∈ fields, field.shape.required = true) :
    values.flatMap FieldValue.write ++ left = input := by
  induction fields generalizing input values with
  | nil =>
      cases parses
      rfl
  | cons field fields inductionHypothesis =>
      cases parses with
      | found finds later =>
          have others := inductionHypothesis later
            (fun other member => required other (List.mem_cons_of_mem _ member))
          rw [finds.eq_write (.inl (required field List.mem_cons_self)), ← others,
            List.flatMap_cons, List.append_assoc]

/-- Numbers are written as they were read, where there are bytes for all of them. -/
theorem Parses.eq_write_of_numbers (parses : Parses fields input (.ok (values, left)))
    (numbers : ∀ field ∈ fields, field.shape = .number ∨ field.shape = .optionalNumber)
    (enough : 4 * fields.length ≤ input.length) :
    values.flatMap FieldValue.write ++ left = input := by
  induction fields generalizing input values with
  | nil =>
      cases parses
      rfl
  | cons field fields inductionHypothesis =>
      cases parses with
      | @found _ _ _ rest _ value _ finds later =>
          rw [List.length_cons] at enough
          have isNumber := numbers field List.mem_cons_self
          have isThere : field.shape.required = true ∨
              field.shape = .optionalNumber ∧ 4 ≤ input.length :=
            isNumber.imp (fun same => by rw [same]; rfl) fun same => ⟨same, by omega⟩
          have written := finds.eq_write isThere
          have four : value.write.length = 4 := by
            rcases isNumber with same | same
            all_goals
              rw [same] at finds
              cases finds <;> rfl
          have others := inductionHypothesis later
            (fun other member => numbers other (List.mem_cons_of_mem _ member))
            (by rw [written, List.length_append] at enough; omega)
          rw [written, ← others, List.flatMap_cons, List.append_assoc]

end Payloads

namespace Kind

/-- **Writing undoes reading.** Whatever is read of a byte string that is short enough for a count,
comes back when it is written and read again, and nothing is left then. Where no field may be left
out, and where no number of a size was, the written bytes with what was left are the byte string
itself. -/
theorem write_undoes_decode (kind : Kind) (input rest : List UInt8) (value : kind.Value)
    (inputShort : Short input) (decoded : kind.format.decode input = .ok (value, rest)) :
    kind.format.decode (kind.format.write value) = .ok (value, []) ∧
      (kind.strict ∨ kind = .windowChange ∧ 16 ≤ input.length →
        kind.format.write value ++ rest = input) := by
  have parses := decode_ok_iff.1 decoded
  constructor
  · obtain ⟨fits, received⟩ := kind.fits_of_returns (parses.returns inputShort)
    have readAgain := kind.decode_of_fits fits
    rwa [received] at readAgain
  · rw [write_eq]
    rintro (strict | ⟨rfl, enough⟩)
    · exact parses.eq_write strict
    · exact parses.eq_write_of_numbers (by decide) enough

/-- A command with other bytes behind it, and a terminal whose modes do not end and are followed by
bytes that are no mode. -/
theorem write_undoes_decode_of_hostile :
    let command : List UInt8 := [0, 0, 0, 2, 108, 115, 9]
    let screen : List UInt8 :=
      [0, 0, 0, 1, 118, 0, 0, 0, 80, 0, 0, 0, 24, 0, 0, 0, 0, 0, 0, 0, 0, 0, 0, 0, 8,
        53, 0, 0, 0, 1, 200, 7, 7, 5]
    (Short command ∧ ExecRequest.format.decode command = .ok (⟨"ls"⟩, [9]) ∧ Kind.exec.strict ∧
        ExecRequest.format.write ⟨"ls"⟩ ++ [9] = command) ∧
      Short screen ∧
        PtyRequest.format.decode screen = .ok (⟨"v", 80, 24, 0, 0, [(53, 1)]⟩, [5]) ∧
        PtyRequest.format.decode (PtyRequest.format.write ⟨"v", 80, 24, 0, 0, [(53, 1)]⟩) =
          .ok (⟨"v", 80, 24, 0, 0, [(53, 1)]⟩, []) := by
  intro command screen
  have commandShort : Short command := by decide
  have screenShort : Short screen := by decide
  have strict : Kind.exec.strict := by decide
  exact ⟨⟨commandShort, rfl, strict,
      (write_undoes_decode .exec command [9] ⟨"ls"⟩ commandShort rfl).2 (.inl strict)⟩,
    screenShort, rfl, (write_undoes_decode .pty screen [5] _ screenShort rfl).1⟩

end Kind

end SshServer.Wire
