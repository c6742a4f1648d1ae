/-!
Contract: socket addresses as text.

Owns: addresses of both families with a port, the texts that denote one, and the one text that each
is printed as.
Does not own: names that have to be looked up, and whether an address can be reached (`Net.Host`).
-/

namespace SshServer

/-- Where a socket is bound or connected to. -/
inductive SocketAddress where
  | v4 (octets : List Nat) (port : Nat)
  | v6 (groups : List Nat) (scope : Nat) (port : Nat)
deriving DecidableEq, Repr, Inhabited

namespace SocketAddress

/-! ### Reading -/

/-- The value of a digit in a base up to sixteen. -/
def digit? (base : Nat) (c : Char) : Option Nat :=
  let value? :=
    if '0' ≤ c ∧ c ≤ '9' then some (c.toNat - '0'.toNat)
    else if 'a' ≤ c ∧ c ≤ 'f' then some (c.toNat - 'a'.toNat + 10)
    else if 'A' ≤ c ∧ c ≤ 'F' then some (c.toNat - 'A'.toNat + 10)
    else none
  value?.filter (· < base)

/-- The number that the digits at the front spell, how many there are, and the rest. -/
def digitRun (base value count : Nat) : List Char → Nat × Nat × List Char
  | [] => (value, count, [])
  | c :: rest =>
    match digit? base c with
    | some digit => digitRun base (value * base + digit) (count + 1) rest
    | none => (value, count, c :: rest)

/-- A number below `bound` of at most `most` digits. -/
def readNumber (base most bound : Nat) (text : List Char) : Option (Nat × List Char) :=
  let (value, count, rest) := digitRun base 0 0 text
  if count = 0 ∨ most < count ∨ bound ≤ value then none else some (value, rest)

def readChar (c : Char) : List Char → Option (List Char)
  | [] => none
  | first :: rest => if first = c then some rest else none

/-- An octet: at most three digits, the first of which is zero only if it is the only one. -/
def readOctet (text : List Char) : Option (Nat × List Char) := do
  let (value, rest) ← readNumber 10 3 256 text
  if text.head? = some '0' ∧ rest.length + 1 < text.length then none else some (value, rest)

/-- Four octets with points between them. -/
def readOctets (text : List Char) : Option (List Nat × List Char) := do
  let (first, text) ← readOctet text
  let (second, text) ← readOctet (← readChar '.' text)
  let (third, text) ← readOctet (← readChar '.' text)
  let (fourth, text) ← readOctet (← readChar '.' text)
  pure ([first, second, third, fourth], text)

/-- Up to `room` groups with colons between them. Where two groups have room, four octets may stand
for them, and then end the run; the flag says whether they did. -/
def readGroups (first : Bool) : Nat → List Char → List Nat × Bool × List Char
  | 0, text => ([], false, text)
  | room + 1, text =>
    match if first then some text else readChar ':' text with
    | none => ([], false, text)
    | some inner =>
      let embedded? := if room = 0 then none else readOctets inner
      match embedded? with
      | some ([a, b, c, d], rest) => ([a * 256 + b, c * 256 + d], true, rest)
      | _ =>
        match readNumber 16 4 65536 inner with
        | none => ([], false, text)
        | some (group, rest) =>
          let (more, embedded, rest) := readGroups false room rest
          (group :: more, embedded, rest)

/-- Eight groups, a run of zero groups among them possibly left out. -/
def readGroupsOfEight (text : List Char) : Option (List Nat × List Char) :=
  match readGroups true 8 text with
  | (front, embedded, rest) =>
    if front.length = 8 then some (front, rest)
    else if embedded then none
    else do
      let rest ← readChar ':' rest
      let rest ← readChar ':' rest
      let (back, _, rest) := readGroups true (7 - front.length) rest
      pure (front ++ List.replicate (8 - front.length - back.length) 0 ++ back, rest)

def readPort (text : List Char) : Option (Nat × List Char) := do
  readNumber 10 text.length 65536 (← readChar ':' text)

def readScope (text : List Char) : Nat × List Char :=
  match (readChar '%' text).bind fun inner => readNumber 10 text.length 4294967296 inner with
  | some found => found
  | none => (0, text)

/-- The address that a text denotes. -/
def parse? (text : String) : Option SocketAddress :=
  let chars := text.toList
  let v4? := do
    let (octets, rest) ← readOctets chars
    let (port, rest) ← readPort rest
    pure (SocketAddress.v4 octets port, rest)
  let v6? := do
    let rest ← readChar '[' chars
    let (groups, rest) ← readGroupsOfEight rest
    let (scope, rest) := readScope rest
    let rest ← readChar ']' rest
    let (port, rest) ← readPort rest
    pure (SocketAddress.v6 groups scope port, rest)
  match v4?.or v6? with
  | some (address, []) => some address
  | _ => none

/-! ### Printing -/

def dotted (octets : List Nat) : String :=
  ".".intercalate (octets.map toString)

def colons (groups : List Nat) : String :=
  ":".intercalate (groups.map fun group => String.ofList (Nat.toDigits 16 group))

def leadingZeros (groups : List Nat) : Nat :=
  (groups.takeWhile (· == 0)).length

/-- The start and length of the longest run of zeros from `start` on; of equal ones, the first. -/
def longestZeros (start : Nat) : List Nat → Nat × Nat
  | [] => (start, 0)
  | group :: rest =>
    let here := leadingZeros (group :: rest)
    let later := longestZeros (start + 1) rest
    if later.2 ≤ here then (start, here) else later

/-- Eight groups. An embedded address of the other family is printed in octets, and the longest run
of at least two zero groups is left out. -/
def groupsText (groups : List Nat) : String :=
  match groups with
  | [0, 0, 0, 0, 0, 0xFFFF, high, low] =>
    "::ffff:" ++ dotted [high / 256, high % 256, low / 256, low % 256]
  | _ =>
    let (start, length) := longestZeros 0 groups
    if 1 < length then colons (groups.take start) ++ "::" ++ colons (groups.drop (start + length))
    else colons groups

def text : SocketAddress → String
  | .v4 octets port => dotted octets ++ ":" ++ toString port
  | .v6 groups scope port =>
    let scopeText := if scope = 0 then "" else "%" ++ toString scope
    "[" ++ groupsText groups ++ scopeText ++ "]:" ++ toString port

example : (parse? "127.0.0.1:22").map text = some "127.0.0.1:22" := by cbv
example : parse? "01.2.3.4:5" = none ∧ parse? "127.0.0.1" = none := by cbv
example : parse? "127.0.0.1:99999" = none ∧ parse? ":22" = none := by cbv
example : (parse? "[::1]:22").map text = some "[::1]:22" := by cbv
example : (parse? "[fe80:0:0:0:1:0:0:2%7]:0").map text = some "[fe80::1:0:0:2%7]:0" := by cbv
example : (parse? "[::ffff:1.2.3.4]:1").map text = some "[::ffff:1.2.3.4]:1" := by cbv

end SocketAddress

end SshServer
