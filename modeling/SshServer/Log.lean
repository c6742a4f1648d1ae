import SshServer.Failure
import SshServer.Signal

/-!
Contract: what the server remarks about refusals and losses.

Owns: the remarks and their wording.
Does not own: where remarks go. Operations that make one return it.
-/

namespace SshServer

inductive LogEntry where
  | requestRejected (cause : Failure)
  | signalIgnored (name : String)
  | subsystemUnknown (name : String)
  | requestUnsupported (kind : String)
  | resizeWithoutTerminal
  | resizeDropped
  | signalDropped (signal : Signal)
  | handlerPanicked (text : String)
  | channelHandlerPanicked
  | globalRequestRefused (kind : String)
  | channelRejected (cause : Failure)
  | tunnelRejected (cause : Failure)
  | tunnelPortOutOfRange (target : String)
deriving DecidableEq, Repr

namespace LogEntry

def text : LogEntry → String
  | .requestRejected cause => "rejecting request: " ++ cause.message
  | .signalIgnored name => "ignoring unknown signal: " ++ name
  | .subsystemUnknown name => "unknown subsystem: " ++ name
  | .requestUnsupported kind => "unsupported session request: " ++ kind
  | .resizeWithoutTerminal => "window-change without a terminal"
  | .resizeDropped => "window change backlog full, dropping resize"
  | .signalDropped signal => "signal backlog full, dropping signal: " ++ signal.name
  | .handlerPanicked text => "session handler panicked: " ++ text
  | .channelHandlerPanicked => "channel handler panicked"
  | .globalRequestRefused kind => "refusing global request: " ++ kind
  | .channelRejected cause => "rejecting channel: " ++ cause.message
  | .tunnelRejected cause => "rejecting direct-tcpip channel: " ++ cause.message
  | .tunnelPortOutOfRange target =>
    "rejecting direct-tcpip channel: port out of range: " ++ target

end LogEntry

end SshServer
