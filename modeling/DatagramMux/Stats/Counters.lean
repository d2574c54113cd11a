import DatagramMux.Stats.Tenths

/-!
# Counters

What the multiplexer counts, and the report that it makes of the counts from time to time. A count
is a 64-bit word and wraps around.
-/

namespace DatagramMux

/-- The nine counters of a connection at one moment. -/
structure Stats where
  datagramsReceived : UInt64 := 0
  bytesReceived : UInt64 := 0
  datagramsDropped : UInt64 := 0
  sessionsCreated : UInt64 := 0
  sessionsDeclined : UInt64 := 0
  sessionsClosed : UInt64 := 0
  writesSubmitted : UInt64 := 0
  writesCompleted : UInt64 := 0
  writesFailed : UInt64 := 0
  deriving DecidableEq, Repr

namespace Stats

/-- The counters in their fixed order. -/
def toList (stats : Stats) : List UInt64 :=
  [ stats.datagramsReceived, stats.bytesReceived, stats.datagramsDropped, stats.sessionsCreated,
    stats.sessionsDeclined, stats.sessionsClosed, stats.writesSubmitted, stats.writesCompleted,
    stats.writesFailed ]

/-- Counters from a list in the fixed order; those that are missing are zero. -/
def ofList (values : List UInt64) : Stats :=
  let value (position : Nat) := values.getD position 0
  { datagramsReceived := value 0, bytesReceived := value 1, datagramsDropped := value 2,
    sessionsCreated := value 3, sessionsDeclined := value 4, sessionsClosed := value 5,
    writesSubmitted := value 6, writesCompleted := value 7, writesFailed := value 8 }

@[simp]
theorem ofList_toList (stats : Stats) : ofList stats.toList = stats := rfl

/-- A span of time: whole seconds and nanoseconds below one second. -/
structure Uptime where
  seconds : UInt64
  nanoseconds : UInt64
  deriving DecidableEq, Repr

/-- A span of time in seconds. -/
def Uptime.toSeconds (uptime : Uptime) : Float :=
  uptime.seconds.toFloat + uptime.nanoseconds.toFloat / 1e9

/-- The distance from one to the next larger number, which stands in for no time at all. -/
def shortestUptime : Float := 2.220446049250313e-16

structure Report where
  uptime : String
  datagramsIn : UInt64
  rateIn : String
  kilobytesIn : UInt64
  dropped : UInt64
  sessions : UInt64
  created : UInt64
  declined : UInt64
  writesOk : UInt64
  writesFailed : UInt64
  message : String
  deriving DecidableEq, Repr

/-- The report after a given uptime with a given number of registered sessions. -/
def report (stats : Stats) (uptime : Uptime) (sessions : UInt64) : Report :=
  let seconds := uptime.toSeconds
  let divisor := if seconds < shortestUptime then shortestUptime else seconds
  { uptime := Tenths.text (Tenths.ofFloat seconds)
    datagramsIn := stats.datagramsReceived
    rateIn := Tenths.text (Tenths.ofFloat (stats.datagramsReceived.toFloat / divisor)) ++ "/sec"
    kilobytesIn := stats.bytesReceived / 1024
    dropped := stats.datagramsDropped
    sessions := sessions
    created := stats.sessionsCreated
    declined := stats.sessionsDeclined
    writesOk := stats.writesCompleted
    writesFailed := stats.writesFailed
    message := "mux stats" }

end Stats

end DatagramMux
