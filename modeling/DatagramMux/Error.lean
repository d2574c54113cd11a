import DatagramMux.Packet.ConnectionId

/-!
# Errors

Two layers of errors: those of input and output, which come either from the operating system or from
this library with a text of its own, and those of the multiplexer, which include the former. Each
error is kept as its cause; its wording is a function of the cause.
-/

namespace DatagramMux

inductive IoKind where
  | other
  | unexpectedEof
  | invalidData
  | wouldBlock
  | interrupted
  | connectionRefused
  | connectionReset
  | notConnected
  | brokenPipe
  | timedOut
  | permissionDenied
  | networkUnreachable
  | hostUnreachable
  | addressInUse
  deriving DecidableEq, Repr

namespace IoKind

def name : IoKind → String
  | .other => "Other"
  | .unexpectedEof => "UnexpectedEof"
  | .invalidData => "InvalidData"
  | .wouldBlock => "WouldBlock"
  | .interrupted => "Interrupted"
  | .connectionRefused => "ConnectionRefused"
  | .connectionReset => "ConnectionReset"
  | .notConnected => "NotConnected"
  | .brokenPipe => "BrokenPipe"
  | .timedOut => "TimedOut"
  | .permissionDenied => "PermissionDenied"
  | .networkUnreachable => "NetworkUnreachable"
  | .hostUnreachable => "HostUnreachable"
  | .addressInUse => "AddrInUse"

def all : List IoKind :=
  [.other, .unexpectedEof, .invalidData, .wouldBlock, .interrupted, .connectionRefused,
    .connectionReset, .notConnected, .brokenPipe, .timedOut, .permissionDenied,
    .networkUnreachable, .hostUnreachable, .addressInUse]

def ofName? (text : String) : Option IoKind := all.find? fun kind => kind.name == text

theorem ofName?_name (kind : IoKind) : ofName? kind.name = some kind := by
  cases kind <;> decide

/-- How the operating system words an error of this kind, with the number that it gives to it. -/
def systemText : IoKind → String
  | .other => "Input/output error (os error 5)"
  | .unexpectedEof => "No data available (os error 61)"
  | .invalidData => "Bad message (os error 74)"
  | .wouldBlock => "Resource temporarily unavailable (os error 11)"
  | .interrupted => "Interrupted system call (os error 4)"
  | .connectionRefused => "Connection refused (os error 111)"
  | .connectionReset => "Connection reset by peer (os error 104)"
  | .notConnected => "Transport endpoint is not connected (os error 107)"
  | .brokenPipe => "Broken pipe (os error 32)"
  | .timedOut => "Connection timed out (os error 110)"
  | .permissionDenied => "Operation not permitted (os error 1)"
  | .networkUnreachable => "Network is unreachable (os error 101)"
  | .hostUnreachable => "No route to host (os error 113)"
  | .addressInUse => "Address already in use (os error 98)"

end IoKind

/-- An input or output error, by who reports it. -/
inductive IoError where
  /-- The operating system refused a call. -/
  | system (kind : IoKind)
  /-- An endpoint refused an operation, for a reason that it words itself. -/
  | described (kind : IoKind) (text : String)
  deriving DecidableEq, Repr

namespace IoError

def kind : IoError → IoKind
  | .system kind => kind
  | .described kind _ => kind

def message : IoError → String
  | .system kind => kind.systemText
  | .described _ text => text

end IoError

/-- What can go wrong in the demultiplexer, in a write or in a session. -/
inductive MuxError where
  | io (cause : IoError)
  | closed
  | duplicateConnectionId (identifier : ConnectionId)
  | sessionCreation (reason : String)
  | session (reason : String)
  | configuration (reason : String)
  deriving DecidableEq, Repr

namespace MuxError

def message : MuxError → String
  | .io cause => "I/O error: " ++ cause.message
  | .closed => "connection closed"
  | .duplicateConnectionId identifier =>
      "connection ID " ++ identifier.text ++ " already registered"
  | .sessionCreation reason => "session creation failed: " ++ reason
  | .session reason => "session error: " ++ reason
  | .configuration reason => "invalid configuration: " ++ reason

/-- The name of an error's variant; an input or output error adds its kind. -/
def name : MuxError → String
  | .io cause => "Io " ++ cause.kind.name
  | .closed => "Closed"
  | .duplicateConnectionId _ => "DuplicateConnectionId"
  | .sessionCreation _ => "SessionCreation"
  | .session _ => "Session"
  | .configuration _ => "Config"

end MuxError

end DatagramMux
