/-!
Contract: the characters that separate words.

Owns: the white space of Unicode and the words of a text.
Does not own: quoting; a command line is split at white space alone.
-/

namespace SshServer.Text

/-- White space: the characters with the Unicode property of that name. -/
def isBlank (c : Char) : Bool :=
  let code := c.val
  (0x09 ≤ code && code ≤ 0x0D) || code == 0x20 || code == 0x85 || code == 0xA0 || code == 0x1680 ||
    (0x2000 ≤ code && code ≤ 0x200A) || code == 0x2028 || code == 0x2029 || code == 0x202F ||
    code == 0x205F || code == 0x3000

/-- The words of a character list, the first of which begins with `word` in reverse. -/
def wordsFrom (word : List Char) : List Char → List (List Char)
  | [] => if word.isEmpty then [] else [word.reverse]
  | c :: rest =>
    if isBlank c then
      if word.isEmpty then wordsFrom [] rest else word.reverse :: wordsFrom [] rest
    else wordsFrom (c :: word) rest

/-- The words of a text: its longest parts without white space, in order. -/
def words (text : String) : List String :=
  (wordsFrom [] text.toList).map String.ofList

example : words "  a\tbc \n" = ["a", "bc"] := by cbv
example : (' '.isWhitespace → isBlank ' ') ∧ isBlank '\t' ∧ isBlank '\n' ∧ isBlank '\r' := by decide

theorem isBlank_of_isWhitespace {c : Char} (white : c.isWhitespace) : isBlank c := by
  simp [Char.isWhitespace] at white
  rcases white with ((rfl | rfl) | rfl) | rfl
  all_goals decide

end SshServer.Text
