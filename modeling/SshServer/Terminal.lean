/-!
Contract: the terminal that a session was given.

Owns: window sizes, the terminal as it was requested, and the defaults of both.
Does not own: when a terminal is granted or resized (`Session.State`).
-/

namespace SshServer

/-- The size of a terminal in character cells. -/
structure WindowSize where
  width : UInt32
  height : UInt32
deriving DecidableEq, Repr

instance : Inhabited WindowSize := ⟨⟨80, 24⟩⟩

/-- A terminal as it was when it was granted. Later resizes leave it as it is. -/
structure Terminal where
  term : String
  window : WindowSize
  modes : List (UInt8 × UInt32)
deriving DecidableEq, Repr

instance : Inhabited Terminal := ⟨⟨"xterm-256color", default, []⟩⟩

end SshServer
