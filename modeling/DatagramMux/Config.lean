import DatagramMux.Address.SocketAddress
import DatagramMux.Error

/-!
# Configuration

The settings of one endpoint and its connection. A configuration is valid when a client's first
datagram fits the read buffer, when the local identifiers have a length that a long header can
announce, and when the event loop has room for an event.
-/

namespace DatagramMux

/-- Settings of one endpoint and its connection. Durations are in milliseconds. -/
structure Config where
  bindAddress : SocketAddress := .unspecified
  /-- The least capacity of a read buffer. -/
  readBufferSize : UInt64 := 1500
  /-- Whether the pool is asked for buffers outside the managed heap. -/
  directBuffers : Bool := true
  /-- The length of the identifier in a short header. -/
  localIdLength : UInt64 := 16
  /-- The size asked for both buffers of the socket. -/
  socketBufferSize : UInt64 := 262144
  /-- The room of the event loop for events. -/
  eventsCapacity : UInt64 := 1024
  /-- How many free buffers the pool keeps. -/
  poolCapacity : UInt64 := 64
  /-- How long the event loop waits for an event. -/
  pollTimeout : Nat := 1
  /-- The time between two reports of the counters. -/
  statsInterval : Nat := 5000
  deriving DecidableEq

namespace Config

/-- Why a configuration is refused. -/
inductive Fault where
  | smallReadBuffer (size : UInt64)
  | longLocalId (length : UInt64)
  | noRoomForEvents
  deriving DecidableEq, Repr

def Fault.message : Fault → String
  | .smallReadBuffer size =>
      "read_buffer_size " ++ toString size.toNat ++
        " is below the minimum initial datagram size " ++ toString minInitialLength
  | .longLocalId length =>
      "local_cid_len " ++ toString length.toNat ++ " exceeds " ++ toString ConnectionId.maxLength
  | .noRoomForEvents => "events_capacity must be non-zero"

def Fault.toError (fault : Fault) : MuxError := .configuration fault.message

def fault? (config : Config) : Option Fault :=
  if config.readBufferSize.toNat < minInitialLength then
    some (.smallReadBuffer config.readBufferSize)
  else if ConnectionId.maxLength < config.localIdLength.toNat then
    some (.longLocalId config.localIdLength)
  else if config.eventsCapacity = 0 then some .noRoomForEvents
  else none

def Valid (config : Config) : Prop :=
  minInitialLength ≤ config.readBufferSize.toNat ∧
    config.localIdLength.toNat ≤ ConnectionId.maxLength ∧ config.eventsCapacity ≠ 0

theorem fault?_eq_none_iff {config : Config} : config.fault? = none ↔ config.Valid := by
  unfold fault? Valid
  constructor
  · intro free
    split at free
    · cases free
    · split at free
      · cases free
      · split at free
        · cases free
        · next fits short room => exact ⟨by omega, by omega, room⟩
  · rintro ⟨fits, short, room⟩
    rw [if_neg (by omega), if_neg (by omega), if_neg room]

/-- Accepts a valid configuration and names the first fault of any other. -/
def validate (config : Config) : Except MuxError Config :=
  match config.fault? with
  | some fault => .error fault.toError
  | none => .ok config

/-- The settings by name in alphabetic order, as one line of text. -/
def text (config : Config) : String :=
  let entry (name value : String) := "\"" ++ name ++ "\":" ++ value
  let number (name : String) (value : Nat) := entry name (toString value)
  "\x7b" ++
    ",".intercalate
      [ entry "bind_addr" ("\"" ++ config.bindAddress.text ++ "\""),
        entry "direct_buffers" (if config.directBuffers then "true" else "false"),
        number "events_capacity" config.eventsCapacity.toNat,
        number "local_cid_len" config.localIdLength.toNat,
        number "poll_timeout_ms" config.pollTimeout,
        number "pool_capacity" config.poolCapacity.toNat,
        number "read_buffer_size" config.readBufferSize.toNat,
        number "socket_buffer_size" config.socketBufferSize.toNat,
        number "stats_interval_ms" config.statsInterval ] ++
    "\x7d"

end Config

end DatagramMux
