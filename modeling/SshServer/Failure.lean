/-!
Contract: the causes of failure of the server, and their wording.

Owns: the kinds of input/output failure with their plain descriptions, the two ways in which a
payload field cannot be read, the causes that the library reports, their messages, the inner cause
each one carries, and the view of each as an input/output failure.
Does not own: the position of a bad byte in a text (`Text.Utf8`) and the printing of a failure for a
particular caller.
-/

namespace SshServer

/-- What kind of input/output operation failed, or how. -/
inductive IoKind where
  | addrInUse | addrNotAvailable | alreadyExists | argumentListTooLong | brokenPipe
  | connectionAborted | connectionRefused | connectionReset | crossesDevices | deadlock
  | directoryNotEmpty | executableFileBusy | fileTooLarge | hostUnreachable | interrupted
  | invalidData | invalidFilename | invalidInput | isADirectory | networkDown
  | networkUnreachable | notADirectory | notConnected | notFound | notSeekable | other
  | outOfMemory | permissionDenied | quotaExceeded | readOnlyFilesystem | resourceBusy
  | staleNetworkFileHandle | storageFull | timedOut | tooManyLinks | unexpectedEof
  | unsupported | wouldBlock | writeZero
deriving DecidableEq, Repr, Inhabited

namespace IoKind

def all : List IoKind :=
  [.addrInUse, .addrNotAvailable, .alreadyExists, .argumentListTooLong, .brokenPipe,
   .connectionAborted, .connectionRefused, .connectionReset, .crossesDevices, .deadlock,
   .directoryNotEmpty, .executableFileBusy, .fileTooLarge, .hostUnreachable, .interrupted,
   .invalidData, .invalidFilename, .invalidInput, .isADirectory, .networkDown,
   .networkUnreachable, .notADirectory, .notConnected, .notFound, .notSeekable, .other,
   .outOfMemory, .permissionDenied, .quotaExceeded, .readOnlyFilesystem, .resourceBusy,
   .staleNetworkFileHandle, .storageFull, .timedOut, .tooManyLinks, .unexpectedEof,
   .unsupported, .wouldBlock, .writeZero]

def name : IoKind → String
  | .addrInUse => "AddrInUse"
  | .addrNotAvailable => "AddrNotAvailable"
  | .alreadyExists => "AlreadyExists"
  | .argumentListTooLong => "ArgumentListTooLong"
  | .brokenPipe => "BrokenPipe"
  | .connectionAborted => "ConnectionAborted"
  | .connectionRefused => "ConnectionRefused"
  | .connectionReset => "ConnectionReset"
  | .crossesDevices => "CrossesDevices"
  | .deadlock => "Deadlock"
  | .directoryNotEmpty => "DirectoryNotEmpty"
  | .executableFileBusy => "ExecutableFileBusy"
  | .fileTooLarge => "FileTooLarge"
  | .hostUnreachable => "HostUnreachable"
  | .interrupted => "Interrupted"
  | .invalidData => "InvalidData"
  | .invalidFilename => "InvalidFilename"
  | .invalidInput => "InvalidInput"
  | .isADirectory => "IsADirectory"
  | .networkDown => "NetworkDown"
  | .networkUnreachable => "NetworkUnreachable"
  | .notADirectory => "NotADirectory"
  | .notConnected => "NotConnected"
  | .notFound => "NotFound"
  | .notSeekable => "NotSeekable"
  | .other => "Other"
  | .outOfMemory => "OutOfMemory"
  | .permissionDenied => "PermissionDenied"
  | .quotaExceeded => "QuotaExceeded"
  | .readOnlyFilesystem => "ReadOnlyFilesystem"
  | .resourceBusy => "ResourceBusy"
  | .staleNetworkFileHandle => "StaleNetworkFileHandle"
  | .storageFull => "StorageFull"
  | .timedOut => "TimedOut"
  | .tooManyLinks => "TooManyLinks"
  | .unexpectedEof => "UnexpectedEof"
  | .unsupported => "Unsupported"
  | .wouldBlock => "WouldBlock"
  | .writeZero => "WriteZero"

/-- What is said of a failure of which only the kind is known. -/
def description : IoKind → String
  | .addrInUse => "address in use"
  | .addrNotAvailable => "address not available"
  | .alreadyExists => "entity already exists"
  | .argumentListTooLong => "argument list too long"
  | .brokenPipe => "broken pipe"
  | .connectionAborted => "connection aborted"
  | .connectionRefused => "connection refused"
  | .connectionReset => "connection reset"
  | .crossesDevices => "cross-device link or rename"
  | .deadlock => "deadlock"
  | .directoryNotEmpty => "directory not empty"
  | .executableFileBusy => "executable file busy"
  | .fileTooLarge => "file too large"
  | .hostUnreachable => "host unreachable"
  | .interrupted => "operation interrupted"
  | .invalidData => "invalid data"
  | .invalidFilename => "invalid filename"
  | .invalidInput => "invalid input parameter"
  | .isADirectory => "is a directory"
  | .networkDown => "network down"
  | .networkUnreachable => "network unreachable"
  | .notADirectory => "not a directory"
  | .notConnected => "not connected"
  | .notFound => "entity not found"
  | .notSeekable => "seek on unseekable file"
  | .other => "other error"
  | .outOfMemory => "out of memory"
  | .permissionDenied => "permission denied"
  | .quotaExceeded => "quota exceeded"
  | .readOnlyFilesystem => "read-only filesystem or storage medium"
  | .resourceBusy => "resource busy"
  | .staleNetworkFileHandle => "stale network file handle"
  | .storageFull => "no storage space"
  | .timedOut => "timed out"
  | .tooManyLinks => "too many links"
  | .unexpectedEof => "unexpected end of file"
  | .unsupported => "unsupported"
  | .wouldBlock => "operation would block"
  | .writeZero => "write zero"

def ofName? (text : String) : Option IoKind :=
  all.find? fun kind => kind.name == text

end IoKind

/-- A failed input/output operation: its kind and what is said of it. -/
structure IoFailure where
  kind : IoKind
  message : String
deriving DecidableEq, Repr, Inhabited

def IoFailure.bare (kind : IoKind) : IoFailure :=
  ⟨kind, kind.description⟩

/-- Why a payload could not be decoded. -/
inductive WireFailure where
  /-- The payload ended before the field did. -/
  | truncated (field : String)
  /-- All bytes of the field are there, but they are no text. -/
  | invalidUtf8 (field : String)
deriving DecidableEq, Repr

def WireFailure.message : WireFailure → String
  | .truncated field => "payload truncated while reading " ++ field
  | .invalidUtf8 field => "field " ++ field ++ " is not valid utf-8"

def WireFailure.field : WireFailure → String
  | .truncated field => field
  | .invalidUtf8 field => field

/-- Why an operation of the server failed. -/
inductive Failure where
  | io (cause : IoFailure)
  /-- The transport protocol failed; the text is the transport's own. -/
  | transport (text : String)
  | key (text : String)
  /-- A host key could not be loaded; the text is the key reader's own. -/
  | keyLoad (text : String)
  | configuration (text : String)
  | addressSyntax
  | handshake (text : String)
  | unsupportedChannelType (channelType : String)
  | malformedPayload (cause : WireFailure)
  /-- A request that is honoured once and was repeated. -/
  | duplicateRequest (kind : String)
  | streamClosed
  | dial (target : String) (cause : IoFailure)
  | peerHangup
deriving DecidableEq, Repr

namespace Failure

/-- What is wrong with a text that is no socket address. -/
def addressSyntaxText : String := "invalid socket address syntax"

def message : Failure → String
  | .io cause => "io error: " ++ cause.message
  | .transport text => "russh error: " ++ text
  | .key text => "key error: " ++ text
  | .keyLoad text => "key loading error: " ++ text
  | .configuration text => "configuration error: " ++ text
  | .addressSyntax => "address parse error: " ++ addressSyntaxText
  | .handshake text => "handshake failed: " ++ text
  | .unsupportedChannelType channelType => "unsupported channel type: " ++ channelType
  | .malformedPayload cause => "malformed payload: " ++ cause.message
  | .duplicateRequest kind => "duplicate " ++ kind ++ " request"
  | .streamClosed => "stream closed"
  | .dial target cause => "failed to dial " ++ target ++ ": " ++ cause.message
  | .peerHangup => "peer hung up"

/-- The wording of the inner cause, for the failures that carry one. -/
def source? : Failure → Option String
  | .io cause => some cause.message
  | .transport text => some text
  | .keyLoad text => some text
  | .addressSyntax => some addressSyntaxText
  | .malformedPayload cause => some cause.message
  | .dial _ cause => some cause.message
  | _ => none

/-- The input/output failure that a stream reports. An input/output cause is kept, a closed or
abandoned stream reads as a broken pipe, and anything else keeps only its wording. -/
def toIo : Failure → IoFailure
  | .io cause => cause
  | .streamClosed => ⟨.brokenPipe, message .streamClosed⟩
  | .peerHangup => ⟨.brokenPipe, message .peerHangup⟩
  | failure => ⟨.other, failure.message⟩

/-- A write that did not fit without waiting. -/
def wouldBlock : Failure := .io (.bare .wouldBlock)

end Failure

/-- A session that ended with a status other than zero. -/
structure ExitFailure where
  status : UInt32
  status_ne_zero : status ≠ 0
deriving DecidableEq, Repr

namespace ExitFailure

/-- The failure that an exit status stands for; none for status zero. -/
def ofStatus? (status : UInt32) : Option ExitFailure :=
  if h : status = 0 then none else some ⟨status, h⟩

/-- The wording of a failed exit. -/
def message (failure : ExitFailure) : String :=
  "process exited with status " ++ toString failure.status.toNat

theorem ofStatus?_eq_none_iff {status : UInt32} : ofStatus? status = none ↔ status = 0 := by
  unfold ofStatus?
  split <;> simp_all

end ExitFailure

end SshServer
