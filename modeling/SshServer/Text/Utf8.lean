/-!
Contract: where a byte string stops being UTF-8.

Owns: the reading of one encoded character, the position and extent of the first fault of a byte
string, its wording, and the replacement of faults by the replacement character.
Does not own: the decoding of a faultless byte string, which is core's.
-/

namespace SshServer.Utf8

/-- What stands at the front of a nonempty byte string. -/
inductive Piece where
  /-- One character, encoded in so many bytes. -/
  | whole (length : Nat)
  /-- So many bytes that begin no character, whatever follows them. -/
  | invalid (length : Nat)
  /-- The beginning of a character that the end of the text cuts off. -/
  | incomplete
deriving DecidableEq, Repr

def isContinuation (byte : UInt8) : Bool :=
  0x80 ≤ byte && byte ≤ 0xBF

/-- The second bytes that may follow a first one. They leave out longer spellings of a shorter
encoding, surrogates, and what lies beyond the last character. -/
def secondAllowed (first second : UInt8) : Bool :=
  if first == 0xE0 then 0xA0 ≤ second && second ≤ 0xBF
  else if first == 0xED then 0x80 ≤ second && second ≤ 0x9F
  else if first == 0xF0 then 0x90 ≤ second && second ≤ 0xBF
  else if first == 0xF4 then 0x80 ≤ second && second ≤ 0x8F
  else isContinuation second

/-- How many bytes a character with this first byte takes; none for a byte that begins none. -/
def width? (first : UInt8) : Option Nat :=
  if first ≤ 0x7F then some 1
  else if 0xC2 ≤ first && first ≤ 0xDF then some 2
  else if 0xE0 ≤ first && first ≤ 0xEF then some 3
  else if 0xF0 ≤ first && first ≤ 0xF4 then some 4
  else none

/-- The bytes after the second one: so many are still owed, and `taken` came before them. -/
def tail (owed taken : Nat) : List UInt8 → Piece
  | [] => if owed = 0 then .whole taken else .incomplete
  | byte :: rest =>
    match owed with
    | 0 => .whole taken
    | more + 1 => if isContinuation byte then tail more (taken + 1) rest else .invalid taken

/-- What stands at the front. -/
def front (first : UInt8) (rest : List UInt8) : Piece :=
  match width? first with
  | none => .invalid 1
  | some 1 => .whole 1
  | some width =>
    match rest with
    | [] => .incomplete
    | second :: others =>
      if secondAllowed first second then tail (width - 2) 2 others else .invalid 1

/-- The first fault: its index, and how many bytes it spans. A text that ends within a character
has a fault without an extent. -/
structure Fault where
  index : Nat
  extent : Option Nat
deriving DecidableEq, Repr

/-- The first fault of the bytes, which begin at `index`. -/
def faultFrom (index : Nat) : List UInt8 → Option Fault
  | [] => none
  | first :: rest =>
    match front first rest with
    | .whole length => faultFrom (index + length) (rest.drop (length - 1))
    | .invalid length => some ⟨index, some length⟩
    | .incomplete => some ⟨index, none⟩
termination_by bytes => bytes.length
decreasing_by simp only [List.length_drop, List.length_cons]; omega

/-- The first fault of a byte string; none for UTF-8. -/
def firstFault (bytes : List UInt8) : Option Fault :=
  faultFrom 0 bytes

def Fault.message (fault : Fault) : String :=
  match fault.extent with
  | some length =>
    "invalid utf-8 sequence of " ++ toString length ++ " bytes from index " ++ toString fault.index
  | none => "incomplete utf-8 byte sequence from index " ++ toString fault.index

def replacement : List UInt8 := [0xEF, 0xBF, 0xBD]

/-- The bytes with each fault replaced by the replacement character. -/
def mend : List UInt8 → List UInt8
  | [] => []
  | first :: rest =>
    match front first rest with
    | .whole length => first :: rest.take (length - 1) ++ mend (rest.drop (length - 1))
    | .invalid length => replacement ++ mend (rest.drop (length - 1))
    | .incomplete => replacement
termination_by bytes => bytes.length
decreasing_by all_goals simp only [List.length_drop, List.length_cons]; omega

/-- The text of a byte string, each fault replaced by the replacement character. -/
def lossy (bytes : ByteArray) : String :=
  match String.fromUTF8? bytes with
  | some text => text
  | none => (String.fromUTF8? (mend bytes.toList).toByteArray).getD ""

example : firstFault [0xFF] = some ⟨0, some 1⟩ := by cbv
example : firstFault [0x61, 0xC3] = some ⟨1, none⟩ := by cbv
example : firstFault [0xE2, 0x82, 0x41] = some ⟨0, some 2⟩ := by cbv
example : firstFault [0x61, 0xE2, 0x82, 0xAC] = none := by cbv

end SshServer.Utf8
