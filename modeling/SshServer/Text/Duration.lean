/-!
Contract: a span of time in words.

Owns: the printed form of a span that is a whole number of milliseconds.
Does not own: clocks. No operation of the library measures time.
-/

namespace SshServer.Text

/-- Three digits of a fraction without the zeros at its end, after a point. -/
def fraction (thousandths : Nat) : String :=
  if thousandths = 0 then ""
  else
    let digits := (toString (1000 + thousandths)).toList.drop 1
    "." ++ String.ofList (digits.reverse.dropWhile (· == '0')).reverse

/-- A span of milliseconds. From a second on it is printed in seconds, below that in milliseconds,
and no time at all in the smallest unit. -/
def duration (milliseconds : Nat) : String :=
  if milliseconds = 0 then "0ns"
  else if milliseconds < 1000 then toString milliseconds ++ "ms"
  else toString (milliseconds / 1000) ++ fraction (milliseconds % 1000) ++ "s"

example : duration 1500 = "1.5s" ∧ duration 30000 = "30s" ∧ duration 0 = "0ns" := by cbv
example : duration 10 = "10ms" ∧ duration 1001 = "1.001s" := by cbv

end SshServer.Text
