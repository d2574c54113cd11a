import DatagramMux.Link.Steps

/-!
# The server

One socket, its connection and its event loop. In every round the loop waits for an event. A
writable socket sends the write that is parked, and a readable one runs the read loop, unless nobody
has asked for that since the last time. The loop ends when it is told to, when the connection was
closed, or when waiting fails for another reason than an interruption; the connection is closed in
any case.
-/

namespace DatagramMux

namespace Server

/-- With what the event loop, or one round of it, returned. -/
inductive Returned where
  /-- One round, with the number of events. -/
  | round (result : Except MuxError Nat)
  /-- The whole loop. -/
  | loop (result : Except MuxError Unit)

end Server

structure Server (Callback Session : Type) where
  link : Link Callback Session
  pool : BufferPool
  /-- Whether the event loop is to end. -/
  shutdown : Bool := false
  /-- With what the event loop returned when it was last run. -/
  returned? : Option Server.Returned := none

namespace Server

variable {Callback Session : Type}

def connection (server : Server Callback Session) : Connection Callback Session :=
  server.link.connection

def udp (server : Server Callback Session) : Udp Nat := server.link.udp

def socket (server : Server Callback Session) : Socket := server.link.udp.socket

/-- Puts another socket into the place of a server's socket. -/
def setSocket (server : Server Callback Session) (socket : Socket) : Server Callback Session :=
  { server with link := { server.link with udp := { server.link.udp with socket := socket } } }

/-- What may be asked of a server. -/
inductive Method (Callback : Type) where
  | connection (method : Connection.Method Callback)
  /-- One round of the event loop. -/
  | runOnce
  /-- The event loop. -/
  | run

inductive Task (Callback Session : Type) where
  | link (task : Link.Task Callback Session)
  | lend (least : Nat) (direct : Bool)
  | takeBack (buffer : Buffer) (ending : Connection.Ending)
  /-- See whether the event loop is to end. -/
  | consult
  /-- See whether the connection was closed. -/
  | consultConnection
  /-- Wait for an event, in the event loop or for one round only. -/
  | poll (looping : Bool)
  /-- See whether the read loop is to run, after the parked write has been seen to. -/
  | read (readable looping : Bool)
  | endRound (result : Except MuxError Nat) (looping : Bool)
  /-- Return from the event loop, after the connection has been closed. -/
  | endLoop (result : Except MuxError Unit)

abbrev ServerFrame (Callback Session : Type) :=
  Frame (Task Callback Session) (Connection.Request Callback Session)

/-- A frame of the connection and its endpoint, in which the pool is the server's. -/
def liftLink : Link.LinkFrame Callback Session → ServerFrame Callback Session
  | .task task => .task (.link task)
  | .call (.acquire least direct) => .task (.lend least direct)
  | .call (.release buffer ending) => .task (.takeBack buffer ending)
  | .call request => .call request
  | .inside request => .inside request

/-- The frames of a method of the connection or its endpoint. -/
def enterLink (method : Link.Method Callback) : List (ServerFrame Callback Session) :=
  (Link.begun method).map liftLink

/-- What follows when the connection learns what was asked. -/
def told (request : Connection.Request Callback Session) (reply : Connection.Reply request) :
    List (ServerFrame Callback Session) :=
  (Link.told request reply).map liftLink

/-- Closes the connection and returns from the event loop. -/
def leave (result : Except MuxError Unit) : List (ServerFrame Callback Session) :=
  enterLink (.connection .close) ++ [.task (.endLoop result)]

def step (server : Server Callback Session) :
    Task Callback Session → Server Callback Session × List (ServerFrame Callback Session)
  | .link task =>
      let (link, frames) := Link.step server.link task
      ({ server with link := link }, frames.map liftLink)
  | .lend least direct =>
      let (pool, buffer) := server.pool.acquire least
      ({ server with pool := pool }, told (.acquire least direct) buffer)
  | .takeBack buffer ending =>
      ({ server with pool := server.pool.release buffer }, told (.release buffer ending) ())
  | .consult =>
      if server.shutdown then (server, leave (.ok ()))
      else (server, [.task .consultConnection])
  | .consultConnection =>
      if server.connection.closed then (server, leave (.ok ()))
      else (server, [.task (.poll true)])
  | .poll looping =>
      match server.socket.poll with
      | (socket, .error .interrupted) =>
          (server.setSocket socket, [.task (.endRound (.ok 0) looping)])
      | (socket, .error kind) =>
          (server.setSocket socket,
            [.task (.endRound (.error (.io (.system kind))) looping)])
      | (socket, .ok none) => (server.setSocket socket, [.task (.endRound (.ok 0) looping)])
      | (socket, .ok (some readable)) =>
          (server.setSocket socket, enterLink .writable ++ [.task (.read readable looping)])
  | .read readable looping =>
      if readable then
        let (udp, interested) := server.udp.takeInterest
        ({ server with link := { server.link with udp := udp } },
          (if interested then enterLink (.connection .fillable) else []) ++
            [.task (.endRound (.ok 1) looping)])
      else (server, [.task (.endRound (.ok 1) looping)])
  | .endRound result true =>
      match result with
      | .ok _ => (server, [.task .consult])
      | .error error => (server, leave (.error error))
  | .endRound result false => ({ server with returned? := some (.round result) }, [])
  | .endLoop result => ({ server with returned? := some (.loop result) }, [])

/-- Whether a step has to wait. -/
def blocked (server : Server Callback Session) : Task Callback Session → Bool
  | .link task => Link.blocked server.link task
  | _ => false

def component (Callback Session : Type) :
    Component (Server Callback Session) (Task Callback Session)
      (Connection.Request Callback Session) (Method Callback) Connection.Reply where
  body
    | .connection method => enterLink (.connection method)
    | .runOnce => [.task (.poll false)]
    | .run => [.task .consult]
  step := step
  resume := told
  blocked := blocked

/--
Makes a server: the configuration is checked, an event loop and a socket are made, and the socket is
added to the event loop.
-/
def bind (answers : BindAnswers) (config : Config) (taken routed : Bool) :
    Except MuxError (Server Callback Session) := do
  let connection : Connection Callback Session ← Connection.new config
  let system {α : Type} (result : Except IoError α) : Except MuxError α :=
    result.mapError MuxError.io
  system (Socket.firstAnswer answers.createPoll)
  let socket ← system (Socket.bind answers config.bindAddress taken routed)
  system (Socket.firstAnswer answers.addToPoll)
  return {
    link := { connection := connection, udp := { socket := socket } }
    pool := .new config.poolCapacity.toNat }

end Server

end DatagramMux
