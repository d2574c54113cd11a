import DatagramMux.Connection.Steps
import DatagramMux.Endpoint.Udp

/-!
# A connection on a datagram endpoint

A connection whose endpoint is a datagram socket. What the connection asks of its endpoint becomes
steps of the endpoint, and the completions that the endpoint reports become uses of the connection's
tickets. The buffer pool, the session factory, the sessions and the callbacks are still the
surroundings'.
-/

namespace DatagramMux

structure Link (Callback Session : Type) where
  connection : Connection Callback Session
  udp : Udp Nat

namespace Link

/-- What the connection asks of its endpoint, or the second step of it. -/
inductive EndpointTask (Callback : Type) where
  | fill (buffer : Buffer)
  | receive (buffer : Buffer)
  | write (ticket : Nat) (entry : WriteEntry Callback)
  | interest
  | shutdownOutput
  | isOpen
  | isOutputOpen
  | close

/-- What may be asked of a connection and its endpoint. -/
inductive Method (Callback : Type) where
  | connection (method : Connection.Method Callback)
  /-- Send the parked write, since the socket is writable. -/
  | writable
  /-- Send nothing more, although the connection stays open. -/
  | shutdownOutput
  /-- Close the endpoint, although the connection stays open. -/
  | closeEndpoint

inductive Task (Callback Session : Type) where
  | connection (task : Connection.Task Callback Session)
  | udp (task : Udp.Task Nat)
  | endpoint (task : EndpointTask Callback)
  /-- Return to the connection from something that the endpoint has finished. -/
  | answer (request : Connection.Request Callback Session) (reply : Connection.Reply request)

abbrev LinkFrame (Callback Session : Type) :=
  Frame (Task Callback Session) (Connection.Request Callback Session)

variable {Callback Session : Type}

/--
A frame of the connection, in which what is asked of the endpoint becomes the endpoint's task.
-/
def liftConnection : Connection.ConnectionFrame Callback Session → LinkFrame Callback Session
  | .task task => .task (.connection task)
  | .call (.fill buffer) => .task (.endpoint (.fill buffer))
  | .call .interest => .task (.endpoint .interest)
  | .call .shutdownOutput => .task (.endpoint .shutdownOutput)
  | .call .isOpen => .task (.endpoint .isOpen)
  | .call .closeEndpoint => .task (.endpoint .close)
  | .call (.flusher (.write ticket entry)) => .task (.endpoint (.write ticket entry))
  | .call request => .call request
  | .inside request => .inside request

/-- A frame of the endpoint, in which a completion becomes the use of a ticket. -/
def liftUdp : Udp.UdpFrame Nat → List (LinkFrame Callback Session)
  | .task task => [.task (.udp task)]
  | .call (.complete ticket completion) =>
      [.task (.connection (Connection.begun (.complete ticket completion)))]
  | .inside _ => []

/-- What follows when the connection learns what the endpoint has to say. -/
def told (request : Connection.Request Callback Session) (reply : Connection.Reply request) :
    List (LinkFrame Callback Session) :=
  (Connection.resumed request reply).map liftConnection

/-- One step of the endpoint on behalf of the connection. -/
def endpointStep (udp : Udp Nat) :
    EndpointTask Callback → Udp Nat × List (LinkFrame Callback Session)
  | .fill buffer =>
      if udp.inputOpen then (udp, [.task (.endpoint (.receive buffer))])
      else (udp, told (.fill buffer) (buffer, .ok .closed))
  | .receive buffer =>
      let (udp, reply) := udp.receive buffer
      (udp, told (.fill buffer) reply)
  | .write ticket entry =>
      (udp,
        [ .task (.udp (Udp.begun (.write entry.address entry.buffers ticket))),
          .task (.answer (.flusher (.write ticket entry)) ()) ])
  | .interest => (udp.fillInterested, told .interest ())
  | .shutdownOutput =>
      (udp, [.task (.udp (Udp.begun .shutdownOutput)), .task (.answer .shutdownOutput ())])
  | .isOpen =>
      if udp.inputOpen then (udp, told .isOpen true)
      else (udp, [.task (.endpoint .isOutputOpen)])
  | .isOutputOpen => (udp, told .isOpen udp.outputOpen)
  | .close => (udp, [.task (.udp (Udp.begun .close)), .task (.answer .closeEndpoint ())])

def step (link : Link Callback Session) :
    Task Callback Session → Link Callback Session × List (LinkFrame Callback Session)
  | .connection task =>
      let (connection, frames) := Connection.step link.connection task
      ({ link with connection := connection }, frames.map liftConnection)
  | .udp task =>
      let (udp, frames) := Udp.step link.udp task
      ({ link with udp := udp }, frames.flatMap liftUdp)
  | .endpoint task =>
      let (udp, frames) := endpointStep link.udp task
      ({ link with udp := udp }, frames)
  | .answer request reply => (link, told request reply)

def blocked (link : Link Callback Session) : Task Callback Session → Bool
  | .udp task => Udp.blocked link.udp task
  | _ => false

/-- How a connection and its endpoint begin with a method. -/
def begun : Method Callback → List (LinkFrame Callback Session)
  | .connection method =>
      ((Connection.component Callback Session).body method).map liftConnection
  | .writable => [.task (.udp (Udp.begun .writable))]
  | .shutdownOutput => [.task (.udp (Udp.begun .shutdownOutput))]
  | .closeEndpoint => [.task (.udp (Udp.begun .close))]

def component (Callback Session : Type) :
    Component (Link Callback Session) (Task Callback Session)
      (Connection.Request Callback Session) (Method Callback) Connection.Reply where
  body := begun
  step := step
  resume := told
  blocked := blocked

end Link

end DatagramMux
