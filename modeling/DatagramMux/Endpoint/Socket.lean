import DatagramMux.Address.SocketAddress
import DatagramMux.Error

/-!
# Sockets

A datagram socket as seen by the one who uses it: datagrams that have arrived wait in a queue, and
the operating system accepts the ones that are sent. The system may also answer a call with an
error, and what it will answer can be laid down beforehand, one entry for each coming call;
afterwards every call works as far as the network allows. The network loses nothing and delivers at
once, unless the host has no route, in which case it delivers nothing.

An event loop waits for the socket to become readable or writable. An event reports a change once:
what was left unread is not reported again, only what arrives afterwards.
-/

namespace DatagramMux

/-- What the operating system is to answer to coming calls: an error of a kind, or what it finds. -/
abbrev Answers := List (Option IoKind)

/-- A datagram socket that does not block. -/
structure Socket where
  address : SocketAddress
  /-- The datagrams that wait to be received, each with its sender, oldest first. -/
  inbox : List (SocketAddress × Bytes) := []
  /-- The datagrams that were accepted for sending, each with its receiver, oldest first. -/
  sent : List (SocketAddress × Bytes) := []
  sendAnswers : Answers := []
  receiveAnswers : Answers := []
  pollAnswers : Answers := []
  /-- Whether datagrams have arrived that no event has reported. -/
  readable : Bool := false
  /-- Whether the socket has become writable and no event has reported it. -/
  writable : Bool := true
  /-- Whether the host has a route to anywhere, itself included. -/
  routed : Bool := true
  deriving DecidableEq

namespace Socket

/-- Puts a datagram into the queue of those that wait, which makes the socket readable. -/
def arrive (socket : Socket) (sender : SocketAddress) (datagram : Bytes) : Socket :=
  { socket with inbox := socket.inbox ++ [(sender, datagram)], readable := true }

/-- Accepts a datagram; one that goes to the socket itself arrives there. -/
def accept (socket : Socket) (receiver : SocketAddress) (datagram : Bytes) : Socket :=
  let socket := { socket with sent := socket.sent ++ [(receiver, datagram)] }
  if receiver = socket.address then socket.arrive socket.address datagram else socket

/-- Sends a datagram. Without a route there is nowhere to send it to. -/
def send (socket : Socket) (receiver : SocketAddress) (datagram : Bytes) :
    Socket × Except IoKind Unit :=
  let answer? := socket.sendAnswers.head?.join
  let socket := { socket with sendAnswers := socket.sendAnswers.tail }
  match answer? with
  | some kind => (socket, .error kind)
  | none =>
      if socket.routed then (socket.accept receiver datagram, .ok ())
      else (socket, .error .networkUnreachable)

/-- Receives the oldest datagram that waits. -/
def receive (socket : Socket) : Socket × Except IoKind (SocketAddress × Bytes) :=
  let answer? := socket.receiveAnswers.head?.join
  let socket := { socket with receiveAnswers := socket.receiveAnswers.tail }
  match answer?, socket.inbox with
  | some kind, _ => (socket, .error kind)
  | none, [] => (socket, .error .wouldBlock)
  | none, received :: rest => ({ socket with inbox := rest }, .ok received)

/--
Waits for an event. There is one if datagrams have arrived, or the socket has become writable, since
the last event. It tells whether the socket is readable; that it is writable goes without saying.
-/
def poll (socket : Socket) : Socket × Except IoKind (Option Bool) :=
  let answer? := socket.pollAnswers.head?.join
  let socket := { socket with pollAnswers := socket.pollAnswers.tail }
  match answer? with
  | some kind => (socket, .error kind)
  | none =>
      if socket.readable ∨ socket.writable then
        ({ socket with readable := false, writable := false }, .ok (some socket.readable))
      else (socket, .ok none)

/-- Whether waiting for an event would find nothing. -/
def quiet (socket : Socket) : Bool :=
  !socket.readable && !socket.writable && socket.pollAnswers.isEmpty

end Socket

/-! ## Making a socket -/

/--
What the operating system is to answer to the calls that make a socket and an event loop for it.
-/
structure BindAnswers where
  createPoll : Answers := []
  bind : Answers := []
  setOption : Answers := []
  name : Answers := []
  addToPoll : Answers := []
  deriving DecidableEq, Repr

namespace Socket

def firstAnswer (answers : Answers) : Except IoError Unit :=
  match answers.head?.join with
  | some kind => .error (.system kind)
  | none => .ok ()

/--
Binds a socket and asks for its address. That the sizes of its buffers cannot be set is no reason to
do without it.
-/
def bind (answers : BindAnswers) (address : SocketAddress) (taken routed : Bool) :
    Except IoError Socket := do
  firstAnswer answers.bind
  if taken then .error (.system .addressInUse)
  firstAnswer answers.name
  return { address := address, routed := routed }

end Socket

end DatagramMux
