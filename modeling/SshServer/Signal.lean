/-!
Contract: the signals that a session can be sent.

Owns: the thirteen protocol signals, their names and their order.
Does not own: how a signal reaches the program that asked for it (`Session.Feed`).
-/

namespace SshServer

/-- A signal of the connection protocol. Its name carries no `SIG` in front. -/
inductive Signal where
  | abrt | alrm | fpe | hup | ill | int | kill | pipe | quit | segv | term | usr1 | usr2
deriving DecidableEq, Repr, Inhabited

namespace Signal

def all : List Signal :=
  [.abrt, .alrm, .fpe, .hup, .ill, .int, .kill, .pipe, .quit, .segv, .term, .usr1, .usr2]

def name : Signal → String
  | .abrt => "ABRT"
  | .alrm => "ALRM"
  | .fpe => "FPE"
  | .hup => "HUP"
  | .ill => "ILL"
  | .int => "INT"
  | .kill => "KILL"
  | .pipe => "PIPE"
  | .quit => "QUIT"
  | .segv => "SEGV"
  | .term => "TERM"
  | .usr1 => "USR1"
  | .usr2 => "USR2"

/-- The signal with a name; names outside the protocol's list are no signals. -/
def ofName? (text : String) : Option Signal :=
  all.find? fun signal => signal.name == text

def index (signal : Signal) : Nat :=
  all.idxOf signal

def unknownMessage (text : String) : String :=
  "unknown signal: " ++ text

theorem ofName?_name (signal : Signal) : ofName? signal.name = some signal := by
  cases signal <;> decide

theorem name_of_ofName? {text : String} {signal : Signal} (found : ofName? text = some signal) :
    signal.name = text := by
  have := List.find?_some found
  simpa using this

end Signal

end SshServer
