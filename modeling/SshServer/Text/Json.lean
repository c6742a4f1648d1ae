/-!
Contract: values in the compact form of JSON.

Owns: quoted strings, lists and objects without any blanks, and the order of the members of an
object.
Does not own: numbers and flags, which are printed as everywhere else.
-/

namespace SshServer.Text.Json

def hexDigit (n : Nat) : Char :=
  Nat.digitChar (n % 16)

/-- A control character by its number. -/
def escapeCode (c : Char) : String :=
  "\\u00" ++ String.ofList [hexDigit (c.toNat / 16), hexDigit c.toNat]

/-- A character within quotes. Only quotes, backslashes and control characters are escaped. -/
def escape (c : Char) : String :=
  if c = '"' then "\\\""
  else if c = '\\' then "\\\\"
  else if c = '\x08' then "\\b"
  else if c = '\t' then "\\t"
  else if c = '\n' then "\\n"
  else if c = '\x0c' then "\\f"
  else if c = '\r' then "\\r"
  else if c.toNat < 0x20 then escapeCode c
  else c.toString

def string (text : String) : String :=
  "\"" ++ String.join (text.toList.map escape) ++ "\""

def list (items : List String) : String :=
  "[" ++ ",".intercalate items ++ "]"

/-- An object. Its members are given with their values printed, and stand in the order of
their names. -/
def object (members : List (String × String)) : String :=
  let sorted := members.mergeSort fun a b => !decide (b.1 < a.1)
  "\x7b" ++ ",".intercalate (sorted.map fun (name, value) => string name ++ ":" ++ value) ++ "\x7d"

def optional {α : Type} (print : α → String) : Option α → String
  | none => "null"
  | some value => print value

example : string "a\"\x01é" = "\"a\\\"\\u0001é\"" := by cbv
example : object [("b", "1"), ("a", list ["2", "3"])] = "\x7b\"a\":[2,3],\"b\":1\x7d" := by cbv

end SshServer.Text.Json
