import SshServer.Wire.Basic

/-!
Contract: the payloads of channel requests, channel opens and forwarding requests.

Owns: the fields of each payload, their order and names, the encoded mode list, and the kinds of
payload with the format of each.
Does not own: what a session or a tunnel does with a payload. A reader takes what it knows off the
front and leaves the rest, so peers may append fields.
-/

namespace SshServer.Wire

/-- How the values of a type are written to the wire, and how they are read from it. -/
structure Format (α : Type) where
  /-- Puts a value at the end of a buffer. -/
  encode : α → Writer
  read : Reader α

namespace Format

variable {α : Type}

def write (format : Format α) (value : α) : List UInt8 :=
  ((format.encode value).run []).2

/-- Reads a value off the front of a byte string; on success also says what is left. -/
def decode (format : Format α) (input : List UInt8) : Except WireFailure (α × List UInt8) :=
  format.read.run input

/-- Reads a value from a whole payload; what follows the value is ignored. -/
def decodeAll (format : Format α) (input : List UInt8) : Except WireFailure α :=
  (format.decode input).map Prod.fst

end Format

/-! ### Mode lists -/

/-- The code that ends a mode list. -/
def modesEnd : UInt8 := 0

/-- The last code that takes an argument. The length of what follows a larger code is unknown. -/
def lastModeWithArgument : UInt8 := 159

/-- A mode list: each code before its argument, and the end code. An entry that bears the end code
itself is left out. -/
def modeList : List (UInt8 × UInt32) → List UInt8
  | [] => [modesEnd]
  | (code, argument) :: rest =>
    if code = modesEnd then modeList rest else code :: (uint32 argument ++ modeList rest)

/-- The modes up to the end code, a code without argument, or an entry that is cut short. -/
def readModeList : List UInt8 → List (UInt8 × UInt32)
  | code :: b₃ :: b₂ :: b₁ :: b₀ :: rest =>
    if code = modesEnd ∨ code > lastModeWithArgument then []
    else (code, toUInt32 b₃ b₂ b₁ b₀) :: readModeList rest
  | _ => []

/-! ### Requests of a session -/

structure PtyRequest where
  term : String
  width : UInt32
  height : UInt32
  pixelWidth : UInt32
  pixelHeight : UInt32
  modes : List (UInt8 × UInt32)
deriving DecidableEq, Repr

/-- The sizes in pixels and the modes may be missing. -/
def PtyRequest.format : Format PtyRequest where
  encode request := do
    putString request.term
    putUInt32 request.width
    putUInt32 request.height
    putUInt32 request.pixelWidth
    putUInt32 request.pixelHeight
    putBytes (modeList request.modes)
  read := do
    let term ← readString "term"
    let width ← readUInt32 "width"
    let height ← readUInt32 "height"
    let pixelWidth ← readOptionalUInt32
    let pixelHeight ← readOptionalUInt32
    let modes ← readOptionalBytes
    return ⟨term, width, height, pixelWidth, pixelHeight, readModeList modes⟩

structure WindowChange where
  width : UInt32
  height : UInt32
  pixelWidth : UInt32
  pixelHeight : UInt32
deriving DecidableEq, Repr

/-- The sizes in pixels may be missing. -/
def WindowChange.format : Format WindowChange where
  encode change := do
    putUInt32 change.width
    putUInt32 change.height
    putUInt32 change.pixelWidth
    putUInt32 change.pixelHeight
  read := do
    let width ← readUInt32 "width"
    let height ← readUInt32 "height"
    let pixelWidth ← readOptionalUInt32
    let pixelHeight ← readOptionalUInt32
    return ⟨width, height, pixelWidth, pixelHeight⟩

structure SignalRequest where
  name : String
deriving DecidableEq, Repr

def SignalRequest.format : Format SignalRequest where
  encode request := putString request.name
  read := do
    let name ← readString "signal name"
    return ⟨name⟩

structure ExecRequest where
  command : String
deriving DecidableEq, Repr

def ExecRequest.format : Format ExecRequest where
  encode request := putString request.command
  read := do
    let command ← readString "command"
    return ⟨command⟩

structure SubsystemRequest where
  name : String
deriving DecidableEq, Repr

def SubsystemRequest.format : Format SubsystemRequest where
  encode request := putString request.name
  read := do
    let name ← readString "subsystem name"
    return ⟨name⟩

structure EnvRequest where
  name : String
  value : String
deriving DecidableEq, Repr

def EnvRequest.format : Format EnvRequest where
  encode request := do
    putString request.name
    putString request.value
  read := do
    let name ← readString "variable name"
    let value ← readString "variable value"
    return ⟨name, value⟩

/-! ### Opens and forwarding -/

/-- The target of a tunnel, and whom it is opened for. -/
structure TunnelOpen where
  host : String
  port : UInt32
  originatorHost : String
  originatorPort : UInt32
deriving DecidableEq, Repr

def TunnelOpen.format : Format TunnelOpen where
  encode target := do
    putString target.host
    putUInt32 target.port
    putString target.originatorHost
    putUInt32 target.originatorPort
  read := do
    let host ← readString "host"
    let port ← readUInt32 "port"
    let originatorHost ← readString "originator host"
    let originatorPort ← readUInt32 "originator port"
    return ⟨host, port, originatorHost, originatorPort⟩

/-- Whom a display connection is opened for. -/
structure DisplayOpen where
  originatorHost : String
  originatorPort : UInt32
deriving DecidableEq, Repr

def DisplayOpen.format : Format DisplayOpen where
  encode origin := do
    putString origin.originatorHost
    putUInt32 origin.originatorPort
  read := do
    let originatorHost ← readString "originator host"
    let originatorPort ← readUInt32 "originator port"
    return ⟨originatorHost, originatorPort⟩

/-- An address that connections are to be forwarded from, or no longer. -/
structure ForwardRequest where
  address : String
  port : UInt32
deriving DecidableEq, Repr

def ForwardRequest.format : Format ForwardRequest where
  encode request := do
    putString request.address
    putUInt32 request.port
  read := do
    let address ← readString "bind address"
    let port ← readUInt32 "bind port"
    return ⟨address, port⟩

/-! ### Kinds -/

inductive Kind where
  | pty | windowChange | signal | exec | subsystem | env | tunnel | display | forward
deriving DecidableEq, Repr

namespace Kind

def all : List Kind :=
  [.pty, .windowChange, .signal, .exec, .subsystem, .env, .tunnel, .display, .forward]

def name : Kind → String
  | .pty => "pty-req"
  | .windowChange => "window-change"
  | .signal => "signal"
  | .exec => "exec"
  | .subsystem => "subsystem"
  | .env => "env"
  | .tunnel => "direct-tcpip"
  | .display => "x11"
  | .forward => "tcpip-forward"

def ofName? (text : String) : Option Kind :=
  all.find? fun kind => kind.name == text

/-- The payloads of a kind. -/
abbrev Value : Kind → Type
  | .pty => PtyRequest
  | .windowChange => WindowChange
  | .signal => SignalRequest
  | .exec => ExecRequest
  | .subsystem => SubsystemRequest
  | .env => EnvRequest
  | .tunnel => TunnelOpen
  | .display => DisplayOpen
  | .forward => ForwardRequest

def format : (kind : Kind) → Format kind.Value
  | .pty => PtyRequest.format
  | .windowChange => WindowChange.format
  | .signal => SignalRequest.format
  | .exec => ExecRequest.format
  | .subsystem => SubsystemRequest.format
  | .env => EnvRequest.format
  | .tunnel => TunnelOpen.format
  | .display => DisplayOpen.format
  | .forward => ForwardRequest.format

theorem ofName?_name (kind : Kind) : ofName? kind.name = some kind := by
  cases kind <;> decide

end Kind

end SshServer.Wire
