import SshServer.Failure

/-!
Contract: the two building blocks of payloads, unsigned numbers and strings.

Owns: how a number and a string are written, the writer at the end of a buffer, the reader of the
front of a byte string, and which failure names the field that could not be read.
Does not own: which fields a payload has and in what order (`Wire.Payload`).
-/

namespace SshServer.Wire

/-! ### Writing -/

/-- A number as four bytes, the most significant first. -/
def uint32 (value : UInt32) : List UInt8 :=
  [UInt8.ofNat (value.toNat / 16777216), UInt8.ofNat (value.toNat / 65536),
   UInt8.ofNat (value.toNat / 256), UInt8.ofNat value.toNat]

/-- Bytes after their count. -/
def bytes (content : List UInt8) : List UInt8 :=
  uint32 (UInt32.ofNat content.length) ++ content

def utf8 (text : String) : List UInt8 :=
  text.toUTF8.data.toList

def string (text : String) : List UInt8 :=
  bytes (utf8 text)

/-- Writes something behind what a buffer holds. -/
abbrev Writer := StateM (List UInt8) Unit

def put (content : List UInt8) : Writer :=
  modify fun buffer => buffer ++ content

def putUInt32 (value : UInt32) : Writer :=
  put (uint32 value)

def putBytes (content : List UInt8) : Writer := do
  putUInt32 (UInt32.ofNat content.length)
  put content

def putString (text : String) : Writer :=
  putBytes (utf8 text)

/-! ### Reading -/

/-- Reads something off the front of a byte string, and leaves the rest. -/
abbrev Reader (α : Type) := StateT (List UInt8) (Except WireFailure) α

/-- The number that four bytes stand for. -/
def toUInt32 (b₃ b₂ b₁ b₀ : UInt8) : UInt32 :=
  UInt32.ofNat (b₃.toNat * 16777216 + b₂.toNat * 65536 + b₁.toNat * 256 + b₀.toNat)

/-- A number off the front, where four bytes are left. -/
def uint32? : List UInt8 → Option (UInt32 × List UInt8)
  | b₃ :: b₂ :: b₁ :: b₀ :: rest => some (toUInt32 b₃ b₂ b₁ b₀, rest)
  | _ => none

/-- The first `count` bytes, where so many are left. -/
def split? (count : Nat) (input : List UInt8) : Option (List UInt8 × List UInt8) :=
  if input.length < count then none else some (input.take count, input.drop count)

def readUInt32 (field : String) : Reader UInt32 := fun input =>
  match uint32? input with
  | some found => .ok found
  | none => .error (.truncated field)

def readBytes (field : String) : Reader (List UInt8) := do
  let count ← readUInt32 field
  fun input =>
    match split? count.toNat input with
    | some found => .ok found
    | none => .error (.truncated field)

def readString (field : String) : Reader String := do
  let content ← readBytes field
  match String.fromUTF8? content.toByteArray with
  | some text => pure text
  | none => throw (.invalidUtf8 field)

/-- A number that older peers leave out: zero, and nothing read, where fewer than four bytes
are left. -/
def readOptionalUInt32 : Reader UInt32 := fun input =>
  match uint32? input with
  | some found => .ok found
  | none => .ok (0, input)

/-- A byte string that older peers leave out: empty where it cannot be read in full. A count that
can be read is read in any case. -/
def readOptionalBytes : Reader (List UInt8) := fun input =>
  match uint32? input with
  | none => .ok ([], input)
  | some (count, rest) =>
    match split? count.toNat rest with
    | some found => .ok found
    | none => .ok ([], rest)

/-! ### Laws -/

theorem length_uint32 (value : UInt32) : (uint32 value).length = 4 := rfl

theorem uint32?_uint32_append (value : UInt32) (rest : List UInt8) :
    uint32? (uint32 value ++ rest) = some (value, rest) := by
  have small := value.toNat_lt
  simp only [uint32, uint32?, List.cons_append, List.nil_append, Option.some.injEq, Prod.mk.injEq,
    and_true]
  apply UInt32.toNat_inj.1
  simp only [toUInt32, UInt32.toNat_ofNat', UInt8.toNat_ofNat']
  omega

theorem uint32_toUInt32 (b₃ b₂ b₁ b₀ : UInt8) :
    uint32 (toUInt32 b₃ b₂ b₁ b₀) = [b₃, b₂, b₁, b₀] := by
  have small₃ := b₃.toNat_lt
  have small₂ := b₂.toNat_lt
  have small₁ := b₁.toNat_lt
  have small₀ := b₀.toNat_lt
  simp only [uint32, toUInt32, UInt32.toNat_ofNat', List.cons.injEq, and_true]
  refine ⟨?_, ?_, ?_, ?_⟩ <;> apply UInt8.toNat_inj.1 <;> rw [UInt8.toNat_ofNat'] <;> omega

theorem split?_append (content rest : List UInt8) :
    split? content.length (content ++ rest) = some (content, rest) := by
  simp [split?]

end SshServer.Wire
