import DatagramMux.Endpoint.Socket

/-!
# Peers

Plain sockets on the same host as an endpoint, with which it exchanges datagrams. What the
endpoint's socket accepted for a peer's address waits at that peer until it is looked at.
-/

namespace DatagramMux.Scenario

/-- The peers of a socket: for each of them, how many of its datagrams were looked at. -/
structure Peers where
  seen : List Nat
  deriving DecidableEq, Repr

inductive PeerFault where
  | missing
  /-- A peer cannot send, since the host has no route. -/
  | unreachable
  /-- A datagram that was waited for cannot come any more. -/
  | silent
  deriving DecidableEq, Repr

namespace Peers

def new (count : Nat) : Peers := ⟨List.replicate count 0⟩

/-- The address of the socket that the peers talk to. -/
def hub : SocketAddress := .v4 127 0 0 1 4433

def address (number : Nat) : SocketAddress := .v4 127 0 0 1 (50000 + number.toUInt16)

/-- How the sender of a datagram is called. -/
def senderName (peers : Peers) (sender : SocketAddress) : String :=
  match (List.range peers.seen.length).find? fun number => address number = sender with
  | some number => "p" ++ toString number
  | none => "self"

def send (peers : Peers) (socket : Socket) (number : Nat) (datagram : Bytes) :
    Except PeerFault Socket :=
  if peers.seen.length ≤ number then .error .missing
  else if socket.routed then .ok (socket.arrive (address number) datagram)
  else .error .unreachable

/-- The datagrams that wait at a peer, oldest first. -/
def waiting (peers : Peers) (socket : Socket) (number : Nat) : List Bytes :=
  ((socket.sent.filter fun (receiver, _) => receiver = address number).map Prod.snd).drop
    (peers.seen.getD number 0)

/-- Looks at the oldest datagrams that wait at a peer, at most a given number of them. -/
def look (peers : Peers) (socket : Socket) (number most : Nat) : Peers × List Bytes :=
  let datagrams := (peers.waiting socket number).take most
  (⟨peers.seen.modify number (· + datagrams.length)⟩, datagrams)

end Peers

end DatagramMux.Scenario
