import DatagramMux.Config
import DatagramMux.Flusher.Basic
import DatagramMux.Registry.Table
import DatagramMux.Stats.Counters

/-!
# The connection

A connection multiplexes the sessions of one endpoint: it routes each datagram to a session by the
connection identifier in its header, asks a factory for a session where the identifier is unknown,
and sends everything through one flusher. This module holds what a connection remembers.
-/

namespace DatagramMux

/-- What a connection remembers. -/
structure Connection (Callback Session : Type) where
  config : Config := {}
  flusher : Flusher Callback := {}
  registry : Registry Session := .empty
  closed : Bool := false
  /--
  How many parties keep the connection alive: its owner, and every call of it that is under way.
  -/
  holders : Nat := 1
  received : UInt64 := 0
  receivedBytes : UInt64 := 0
  dropped : UInt64 := 0
  created : UInt64 := 0
  declined : UInt64 := 0
  sessionsClosed : UInt64 := 0

namespace Connection

variable {Callback Session : Type}

/-- A connection that has not been used yet, or the fault of its configuration. -/
def new (config : Config) : Except MuxError (Connection Callback Session) :=
  match config.validate with
  | .ok config => .ok { config := config }
  | .error error => .error error

/-- All counters of a connection; the flusher counts the writes. -/
def stats (connection : Connection Callback Session) : Stats where
  datagramsReceived := connection.received
  bytesReceived := connection.receivedBytes
  datagramsDropped := connection.dropped
  sessionsCreated := connection.created
  sessionsDeclined := connection.declined
  sessionsClosed := connection.sessionsClosed
  writesSubmitted := connection.flusher.submitted
  writesCompleted := connection.flusher.completed
  writesFailed := connection.flusher.failed

end Connection

end DatagramMux
