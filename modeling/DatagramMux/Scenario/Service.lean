import DatagramMux.Echo.Host
import DatagramMux.Scenario.Peers
import DatagramMux.Server.Steps

/-!
# An echo server among peers

A scenario in which peers talk to a server with echo sessions while its event loop is run, in single
rounds or as a whole. Nothing is left to the surroundings but the callbacks of writes, which do
nothing.
-/

namespace DatagramMux.Scenario

/-- A server with echo sessions. -/
abbrev EchoServer := Server Unit Nat × Echo

/-- One atomic step of a server with echo sessions. -/
abbrev EchoServerTask := Echo.HostTask (Server.Task Unit Nat) Unit

/-- What a server with echo sessions leaves to its surroundings. -/
abbrev EchoServerRequest := Connection.Request Unit Nat

/-- A server with echo sessions. -/
def echoServer :
    Component EchoServer EchoServerTask EchoServerRequest (Server.Method Unit) Connection.Reply :=
  Echo.host (Server.component Unit Nat) (fun entry => .connection (.send entry)) ()

/-- A server, its peers, and what its event loop is doing. -/
structure Service where
  server : EchoServer
  peers : Peers
  /-- How the writes that failed at the endpoint have failed, latest first. -/
  writeErrors : List IoError := []
  stack : List (Frame EchoServerTask EchoServerRequest) := []

namespace Service

/-- A server that was made, among a number of peers. -/
def new (server : Server Unit Nat) (limit : UInt64) (peers : Nat) : Service :=
  { server := (server, { limit := limit }), peers := .new peers }

def socket (service : Service) : Socket := service.server.1.socket

/-- Puts another socket into the place of the server's socket. -/
def setSocket (service : Service) (socket : Socket) : Service :=
  { service with server := (service.server.1.setSocket socket, service.server.2) }

def enter (service : Service) (method : Server.Method Unit) : Service :=
  { service with stack := echoServer.body method ++ service.stack }

/-- Tells the event loop whether to end. -/
def setShutdown (service : Service) (shutdown : Bool) : Service :=
  { service with server := ({ service.server.1 with shutdown := shutdown }, service.server.2) }

/-- What happens when the server tells its surroundings something: a failed write is noted. -/
def hear (service : Service) : EchoServerRequest → Service
  | .flusher (.notify () (.error (.io cause)) next) =>
      { service with
        writeErrors := cause :: service.writeErrors
        stack :=
          echoServer.resume (.flusher (.notify () (.error (.io cause)) next)) () ++ service.stack }
  | .flusher request =>
      { service with stack := echoServer.resume (.flusher request) () ++ service.stack }
  | _ => service

/--
Whether the event loop waits for an event that will not come by itself. When it is told to end, it
does so as soon as the waiting has taken its time.
-/
def waits (service : Service) : Bool :=
  match service.stack with
  | .task (.inner (.poll true)) :: _ => service.socket.quiet && !service.server.1.shutdown
  | _ => false

/-- One move; there is none when nothing is left to happen or the event loop waits. -/
def move (service : Service) : Option Service :=
  match service.stack with
  | [] => none
  | .task task :: rest =>
      if service.waits then none
      else
        let (server, frames) := echoServer.step service.server task
        some { service with server := server, stack := frames ++ rest }
  | .call request :: rest => some ({ service with stack := rest }.hear request)
  | .inside _ :: rest => some { service with stack := rest }

/-- Moves until nothing is left to happen, but at most a given number of times. -/
def settleDown : Nat → Service → Service
  | 0, service => service
  | bound + 1, service =>
      match service.move with
      | none => service
      | some next => settleDown bound next

inductive Step where
  | peerSend (number : Nat) (datagram : Bytes)
  | peerReceive (number : Nat)
  /-- Lay down what the operating system answers to coming calls. -/
  | force (sendAnswers receiveAnswers pollAnswers : Answers)
  /-- Rounds of the event loop until one has no event. -/
  | pump
  /-- One round of the event loop. -/
  | once
  /-- The event loop, which is told to end at once or not to end. -/
  | run (shutdown : Bool)
  | close
  | closeSession (identifier : ConnectionId)

inductive Result where
  | nothing
  | datagrams (datagrams : List Bytes)
  | events (count : Nat)
  | done
  | failed (error : MuxError)
  deriving DecidableEq, Repr

/-- Lays down what the operating system answers to coming calls. -/
def force (service : Service) (sendAnswers receiveAnswers pollAnswers : Answers) : Service :=
  let socket := service.socket
  service.setSocket { socket with
    sendAnswers := socket.sendAnswers ++ sendAnswers
    receiveAnswers := socket.receiveAnswers ++ receiveAnswers
    pollAnswers := socket.pollAnswers ++ pollAnswers }

def round (service : Service) (bound : Nat) : Service × Except MuxError Nat :=
  let service := (service.enter .runOnce).settleDown bound
  match service.server.1.returned? with
  | some (.round result) => (service, result)
  | _ => (service, .ok 0)

/-- Rounds of the event loop until one has no event or fails, but at most a given number of them. -/
def pump (service : Service) (bound : Nat) : Nat → Service × Result
  | 0 => (service, .nothing)
  | rounds + 1 =>
      match service.round bound with
      | (service, .ok 0) => (service, .nothing)
      | (service, .ok _) => service.pump bound rounds
      | (service, .error error) => (service, .failed error)

def take (service : Service) (bound : Nat) : Step → Except PeerFault (Service × Result)
  | .peerSend number datagram => do
      let socket ← service.peers.send service.socket number datagram
      return (service.setSocket socket, .nothing)
  | .peerReceive number =>
      if number < service.peers.seen.length then
        let (peers, datagrams) :=
          service.peers.look service.socket number service.socket.sent.length
        .ok ({ service with peers := peers }, .datagrams datagrams)
      else .error .missing
  | .force sendAnswers receiveAnswers pollAnswers =>
      .ok (service.force sendAnswers receiveAnswers pollAnswers, .nothing)
  | .pump => .ok (service.pump bound bound)
  | .once =>
      match service.round bound with
      | (service, .ok count) => .ok (service, .events count)
      | (service, .error error) => .ok (service, .failed error)
  | .run shutdown =>
      let service := ((service.setShutdown shutdown).enter .run).settleDown bound
      match service.server.1.returned? with
      | some (.loop (.ok ())) => .ok (service, .done)
      | some (.loop (.error error)) => .ok (service, .failed error)
      | _ => .ok (service, .nothing)
  | .close => .ok ((service.enter (.connection .close)).settleDown bound, .nothing)
  | .closeSession identifier =>
      .ok ((service.enter (.connection (.closeSession identifier))).settleDown bound, .nothing)

/-- What is seen of a server after a step. -/
structure Snapshot where
  result : Result
  identifiers : List String
  stats : Stats
  condition : Flusher.Condition
  closed : Bool
  active : UInt64

/-- What is seen of a server after a step with a given result. -/
def snapshot (service : Service) (result : Result) : Snapshot :=
  let connection := service.server.1.connection
  { result := result
    identifiers := (connection.registry.identifiers.map ConnectionId.text).mergeSort (· ≤ ·)
    stats := connection.stats
    condition := connection.flusher.condition
    closed := connection.closed
    active := service.server.2.active }

/-- Takes steps one by one, and looks at the server after each. -/
def playSteps (bound : Nat) (service : Service) : List Step → Except PeerFault (List Snapshot)
  | [] => .ok []
  | step :: rest => do
      let (service, result) ← service.take bound step
      return service.snapshot result :: (← playSteps bound service rest)

/-- How many moves a number of datagrams and sessions can lead to at most. -/
def bound (size : Nat) : Nat := 64 * (size + 4) * (size + 4)

/-- Plays a script with a server that was made already. -/
def play (server : Server Unit Nat) (limit : UInt64) (peers : Nat) (steps : List Step) :
    Except PeerFault (List Snapshot) :=
  playSteps (bound steps.length) (new server limit peers) steps

end Service

end DatagramMux.Scenario
