import DatagramMux.Connection.Basic
import DatagramMux.Flusher.Steps
import DatagramMux.Pool.BufferPool
import DatagramMux.Registry.Sweep

/-!
# The connection step by step

The connection as a component. It asks its surroundings for what the endpoint, the buffer pool, the
session factory, the sessions and the callbacks do, and while they do it they may use the connection
again. Every access to the registry, to the closing flag and to a counter is one atomic step, and
the steps of the flusher are steps of the connection.

The read loop borrows one buffer and fills it with one datagram after the other until the endpoint
has nothing more, is closed, or something fails. A datagram with a known identifier is processed by
its session. For an unknown one the factory may create a session, which is told its identifier and
then registered, unless the connection was closed meanwhile or the identifier was taken; in both
cases the new session is closed at once. Closing happens once: it closes all sessions, terminates
the flusher and closes the endpoint. A failing write closes the connection as well, as long as
somebody still holds it.
-/

namespace DatagramMux

/-- What an endpoint finds when it is asked for a datagram. -/
inductive Fill where
  /-- There will be no more datagrams. -/
  | closed
  /-- There is no datagram at the moment. -/
  | empty
  /-- The buffer holds a datagram of this length from this sender. -/
  | datagram (length : Nat) (remote : SocketAddress)
  deriving DecidableEq

namespace Connection

inductive Ending where
  | closed
  | empty
  | failed (error : MuxError)
  deriving DecidableEq

/-- A datagram that has arrived, with the buffer that it lies in. -/
structure Arrival where
  buffer : Buffer
  remote : SocketAddress
  datagram : Bytes
  deriving DecidableEq

/-- What the count of closed sessions is for. -/
inductive Purpose where
  /-- The connection is being closed. -/
  | shutdown
  /-- Somebody asked for all sessions to be closed. -/
  | demand
  deriving DecidableEq, Repr

/-- What may be asked of a connection. -/
inductive Method (Callback : Type) where
  /-- Read datagrams until there are none left. -/
  | fillable
  | write (entry : WriteEntry Callback)
  /-- Submit a write through a writer, which does not keep the connection alive. -/
  | send (entry : WriteEntry Callback)
  /-- Report with a ticket how its write ended. -/
  | complete (ticket : Nat) (completion : Flusher.Completion)
  | closeSession (identifier : ConnectionId)
  | close
  | closeSessions
  /-- Learn that the owner keeps the connection alive no longer. -/
  | abandon

inductive Task (Callback Session : Type) where
  /-- Keep the connection alive and begin with a method. -/
  | hold (method : Method Callback)
  /-- Keep the connection alive no longer. -/
  | letGo
  /-- Ask the pool for a buffer of the configured size. -/
  | borrow
  | flusher (task : Flusher.Task Callback)
  | sweep (task : Registry.SweepTask Purpose)
  /-- Close the connection after a failed write, if it is still alive. -/
  | react
  /-- Raise the closing flag. -/
  | shut
  /-- Count the sessions that closing the connection has closed. -/
  | countClosed (closed : Nat)
  | unregister (identifier : ConnectionId)
  /-- Count a session that was taken out. -/
  | countUnregistered
  | countDatagram (arrival : Arrival) (length : Nat)
  | countBytes (arrival : Arrival) (length : Nat)
  /-- Read the identifier in a datagram's header. -/
  | identify (arrival : Arrival)
  | countUnidentified (buffer : Buffer)
  /-- Look for the session of an identifier. -/
  | route (arrival : Arrival) (identifier : ConnectionId)
  /-- Count a datagram for which the factory created no session. -/
  | countDeclined (buffer : Buffer)
  /-- See whether the connection was closed while a session was created. -/
  | vet (session : Session) (identifier : ConnectionId) (buffer : Buffer)
  /-- Register a new session unless its identifier is taken. -/
  | register (session : Session) (identifier : ConnectionId) (buffer : Buffer)
  /-- Count a datagram whose identifier was taken meanwhile. -/
  | countRefused (session : Session) (buffer : Buffer)
  /-- See whether the connection was closed before a session was registered. -/
  | confirm (identifier : ConnectionId) (buffer : Buffer)
  /-- Take a session out again, since the connection was closed. -/
  | withdraw (identifier : ConnectionId) (buffer : Buffer)
  | countCreated (buffer : Buffer)

/-- What a connection asks of its surroundings. -/
inductive Request (Callback Session : Type) where
  /-- The pool: lend an empty buffer. -/
  | acquire (least : Nat) (direct : Bool)
  /-- The pool: take a buffer back. -/
  | release (buffer : Buffer) (ending : Ending)
  /-- The endpoint: put one datagram into an empty buffer. -/
  | fill (buffer : Buffer)
  /-- The endpoint: ask for the read loop when there is more. -/
  | interest
  /-- The endpoint: send nothing more. -/
  | shutdownOutput
  /-- The endpoint: tell whether it is open. -/
  | isOpen
  | closeEndpoint
  /-- The factory: create a session for an unknown identifier. -/
  | create (arrival : Arrival) (identifier : ConnectionId)
  | assign (session : Session) (identifier : ConnectionId) (buffer : Buffer)
  | process (session : Session) (arrival : Arrival) (identifier : ConnectionId)
  /-- A new session that cannot stay: close. -/
  | discard (session : Session) (buffer : Buffer)
  /-- A registered session: close; or the caller: learn how many were closed. -/
  | sweep (request : Registry.SweepRequest Session Purpose)
  /-- The endpoint: send a datagram; or a callback: learn how a write ended. -/
  | flusher (request : Flusher.Request Callback)

def Reply {Callback Session : Type} : Request Callback Session → Type
  | .acquire _ _ => Buffer
  | .fill _ => Buffer × Except IoError Fill
  | .isOpen => Bool
  | .create _ _ => Except MuxError (Option Session)
  | .process _ _ _ => Except MuxError Nat
  | .release _ _ | .interest | .shutdownOutput | .closeEndpoint | .assign _ _ _ | .discard _ _
  | .sweep _ | .flusher _ => Unit

abbrev ConnectionFrame (Callback Session : Type) :=
  Frame (Task Callback Session) (Request Callback Session)

variable {Callback Session : Type}

/-- A frame of the flusher as a frame of its connection, which itself sees to a failed write. -/
def liftFlusher : Flusher.FlusherFrame Callback → ConnectionFrame Callback Session
  | .task task => .task (.flusher task)
  | .call .failure => .task .react
  | .call request => .call (.flusher request)
  | .inside request => .inside (.flusher request)

/--
A frame of closing all sessions as a frame of the connection, which itself counts what was closed
when it is being closed.
-/
def liftSweep : Registry.SweepFrame Session Purpose → ConnectionFrame Callback Session
  | .task task => .task (.sweep task)
  | .call (.report closed .shutdown) => .task (.countClosed closed)
  | .call request => .call (.sweep request)
  | .inside request => .inside (.sweep request)

/-- The next round of the read loop: an emptied buffer for the next datagram. -/
def refill (buffer : Buffer) : List (ConnectionFrame Callback Session) :=
  [.call (.fill buffer.clear)]

def begun : Method Callback → Task Callback Session
  | .fillable => .borrow
  | .write entry | .send entry => .flusher (.count entry)
  | .complete ticket completion => .flusher (.redeem ticket completion)
  | .closeSession identifier => .unregister identifier
  | .close => .shut
  | .closeSessions => .sweep (.list .demand)
  | .abandon => .letGo

/-- Whether a call of a method keeps the connection alive. -/
def Method.holds : Method Callback → Bool
  | .send _ | .complete _ _ | .abandon => false
  | .fillable | .write _ | .closeSession _ | .close | .closeSessions => true

def step (connection : Connection Callback Session) :
    Task Callback Session →
      Connection Callback Session × List (ConnectionFrame Callback Session)
  | .hold method =>
      ({ connection with holders := connection.holders + 1 },
        [.task (begun method), .task .letGo])
  | .letGo => ({ connection with holders := connection.holders - 1 }, [])
  | .borrow =>
      (connection,
        [.call (.acquire connection.config.readBufferSize.toNat connection.config.directBuffers)])
  | .flusher task =>
      let (flusher, frames) := Flusher.step connection.flusher task
      ({ connection with flusher := flusher }, frames.map liftFlusher)
  | .sweep task =>
      let (registry, frames) := Registry.sweepStep connection.registry task
      ({ connection with registry := registry }, frames.map liftSweep)
  | .react =>
      if connection.holders = 0 then (connection, [])
      else ({ connection with holders := connection.holders + 1 }, [.task .shut, .task .letGo])
  | .shut =>
      if connection.closed then (connection, [])
      else ({ connection with closed := true }, [.task (.sweep (.list .shutdown))])
  | .countClosed closed =>
      ({ connection with sessionsClosed := connection.sessionsClosed + closed.toUInt64 },
        [.task (.flusher .close), .call .closeEndpoint])
  | .unregister identifier =>
      match connection.registry.remove identifier with
      | (registry, some _) =>
          ({ connection with registry := registry }, [.task .countUnregistered])
      | (registry, none) => ({ connection with registry := registry }, [])
  | .countUnregistered =>
      ({ connection with sessionsClosed := connection.sessionsClosed + 1 }, [])
  | .countDatagram arrival length =>
      ({ connection with received := connection.received + 1 },
        [.task (.countBytes arrival length)])
  | .countBytes arrival length =>
      ({ connection with receivedBytes := connection.receivedBytes + length.toUInt64 },
        [.task (.identify arrival)])
  | .identify arrival =>
      match ConnectionId.ofPacket? arrival.datagram connection.config.localIdLength.toNat with
      | none => (connection, [.task (.countUnidentified arrival.buffer)])
      | some identifier => (connection, [.task (.route arrival identifier)])
  | .countUnidentified buffer =>
      ({ connection with dropped := connection.dropped + 1 }, refill buffer)
  | .route arrival identifier =>
      match connection.registry.lookup? identifier with
      | some session => (connection, [.call (.process session arrival identifier)])
      | none => (connection, [.call (.create arrival identifier)])
  | .countDeclined buffer =>
      ({ connection with declined := connection.declined + 1 }, refill buffer)
  | .vet session identifier buffer =>
      if connection.closed then (connection, [.call (.discard session buffer)])
      else (connection, [.task (.register session identifier buffer)])
  | .register session identifier buffer =>
      match connection.registry.insert? identifier session with
      | some registry =>
          ({ connection with registry := registry }, [.task (.confirm identifier buffer)])
      | none => (connection, [.task (.countRefused session buffer)])
  | .countRefused session buffer =>
      ({ connection with dropped := connection.dropped + 1 }, [.call (.discard session buffer)])
  | .confirm identifier buffer =>
      if connection.closed then (connection, [.task (.withdraw identifier buffer)])
      else (connection, [.task (.countCreated buffer)])
  | .withdraw identifier buffer =>
      match connection.registry.remove identifier with
      | (registry, some session) =>
          ({ connection with registry := registry }, [.call (.discard session buffer)])
      | (registry, none) => ({ connection with registry := registry }, refill buffer)
  | .countCreated buffer =>
      ({ connection with created := connection.created + 1 }, refill buffer)

/-- How a connection goes on when a request has been met. -/
def resumed :
    (request : Request Callback Session) → Reply request →
      List (ConnectionFrame Callback Session)
  | .acquire _ _, buffer => refill buffer
  | .fill _, (buffer, .error cause) => [.call (.release buffer (.failed (.io cause)))]
  | .fill _, (buffer, .ok .closed) => [.call (.release buffer .closed)]
  | .fill _, (buffer, .ok .empty) => [.call (.release buffer .empty)]
  | .fill _, (buffer, .ok (.datagram length remote)) =>
      [.task (.countDatagram ⟨buffer, remote, buffer.contents.take length⟩ length)]
  | .process _ arrival _, .error error => [.call (.release arrival.buffer (.failed error))]
  | .process _ arrival _, .ok _ => refill arrival.buffer
  | .create arrival _, .error error => [.call (.release arrival.buffer (.failed error))]
  | .create arrival _, .ok none => [.task (.countDeclined arrival.buffer)]
  | .create arrival identifier, .ok (some session) =>
      [.call (.assign session identifier arrival.buffer)]
  | .assign session identifier buffer, () => [.task (.vet session identifier buffer)]
  | .discard _ buffer, () => refill buffer
  | .release _ .closed, () => [.call .shutdownOutput]
  | .release _ .empty, () => [.call .interest]
  | .release _ (.failed _), () => [.call .isOpen]
  | .isOpen, true => [.call .interest]
  | .isOpen, false => []
  | .interest, () | .shutdownOutput, () | .closeEndpoint, () => []
  | .sweep request, () => (Registry.sweepResume request).map liftSweep
  | .flusher request, () => (Flusher.resumed request).map liftFlusher

def component (Callback Session : Type) :
    Component (Connection Callback Session) (Task Callback Session) (Request Callback Session)
      (Method Callback) Reply where
  body method := [.task (if method.holds then .hold method else begun method)]
  step := step
  resume := resumed

end Connection

end DatagramMux
