import SshServer.Text.Combining
import SshServer.Text.Unprintable

/-!
Contract: a text in quotes, for a reader of logs.

Owns: the escapes of a quoted text, and the printed form of an optional value and of a list.
Does not own: the fields of the records that are printed with them.
-/

namespace SshServer.Text

def hexDigits (n : Nat) : String :=
  String.ofList (Nat.toDigits 16 n)

/-- An escape that names the code point. -/
def escapeCode (c : Char) : String :=
  "\\u\x7b" ++ hexDigits c.toNat ++ "\x7d"

/-- A character within quotes. Quotes, backslashes and the common controls have short escapes, and a
character that could not be seen alone is named by its code point. -/
def escape (c : Char) : String :=
  if c = '\x00' then "\\0"
  else if c = '\t' then "\\t"
  else if c = '\r' then "\\r"
  else if c = '\n' then "\\n"
  else if c = '\\' then "\\\\"
  else if c = '"' then "\\\""
  else if c.toNat < 0x7F ∧ 0x20 ≤ c.toNat then c.toString
  else if isCombining c || isUnprintable c then escapeCode c
  else c.toString

def quoted (text : String) : String :=
  "\"" ++ String.join (text.toList.map escape) ++ "\""

def optional {α : Type} (print : α → String) : Option α → String
  | none => "None"
  | some value => "Some(" ++ print value ++ ")"

def listed (items : List String) : String :=
  "[" ++ ", ".intercalate items ++ "]"

/-- The printed form of a record with named fields. -/
def record (name : String) (fields : List (String × String)) : String :=
  name ++ " \x7b " ++ ", ".intercalate (fields.map fun (label, value) => label ++ ": " ++ value) ++
    " \x7d"

end SshServer.Text
