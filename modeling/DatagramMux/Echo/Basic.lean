import DatagramMux.Address.SocketAddress
import DatagramMux.Error

/-!
# Echo sessions

The simplest sessions that a connection can serve: each sends every datagram back to where it came
from. Only the first datagram of a client opens a session, and only while fewer than a given number
are active. What a session or the factory does is described step by step, because sending a datagram
may lead to anything else that the connection does before it returns.
-/

namespace DatagramMux

namespace Echo

structure Session where
  /-- The identifier that the session was told. -/
  identifier? : Option ConnectionId := none
  /-- The sender of the datagram that opened the session. -/
  remote : SocketAddress
  closed : Bool := false
  /-- How many datagrams were sent back, the one that opened the session included. -/
  echoed : UInt64 := 1
  deriving DecidableEq

end Echo

/--
A factory of echo sessions together with its sessions, which are numbered as they are created.
-/
structure Echo where
  limit : UInt64
  active : UInt64 := 0
  sessions : List Echo.Session := []
  opened : Nat := 0
  /-- How many were refused because of the limit. -/
  rejected : Nat := 0
  /--
  The sessions that were closed with an identifier, and how many datagrams each had sent back.
  -/
  ended : List (ConnectionId × UInt64) := []
  deriving DecidableEq

namespace Echo

/--
Where an activity goes after a step: to another step, there after a datagram is sent, or to its end.
-/
inductive Progress (Point Result : Type) where
  | goto (point : Point)
  | send (remote : SocketAddress) (datagram : Bytes) (next : Point)
  | done (result : Result)

/--
Whether a datagram is the first of a client: a long header of the initial type, and long enough.
-/
def isInitial (datagram : Bytes) : Bool :=
  match datagram with
  | [] => false
  | first :: _ =>
      HeaderForm.ofByte first = .long && first &&& 0x30 = 0 && minInitialLength ≤ datagram.length

def modifySession (echo : Echo) (number : Nat) (change : Session → Session) : Echo :=
  { echo with sessions := echo.sessions.modify number change }

/-! ## Creating a session -/

inductive CreatePoint where
  /-- See whether the datagram may open a session. -/
  | consider
  /-- Take a place among the active sessions, and send the datagram back. -/
  | occupy
  | make
  deriving DecidableEq, Repr

/-- One step in creating a session; in the end its number, unless there is none. -/
def createStep (echo : Echo) (remote : SocketAddress) (datagram : Bytes) :
    CreatePoint → Echo × Progress CreatePoint (Option Nat)
  | .consider =>
      if isInitial datagram then
        if echo.limit ≤ echo.active then ({ echo with rejected := echo.rejected + 1 }, .done none)
        else (echo, .goto .occupy)
      else (echo, .done none)
  | .occupy =>
      ({ echo with active := echo.active + 1, opened := echo.opened + 1 },
        .send remote datagram .make)
  | .make =>
      ({ echo with sessions := echo.sessions ++ [{ remote := remote }] },
        .done (some echo.sessions.length))

/-! ## Processing a datagram -/

inductive ProcessPoint where
  /-- See whether the session was closed; otherwise send the datagram back. -/
  | consult
  | count
  deriving DecidableEq, Repr

/-- One step of a session in processing a datagram; in the end how many bytes it consumed. -/
def processStep (echo : Echo) (number : Nat) (remote : SocketAddress) (datagram : Bytes) :
    ProcessPoint → Echo × Progress ProcessPoint (Except MuxError Nat)
  | .consult =>
      if echo.sessions[number]?.all (·.closed) then
        (echo, .done (.error (.session "session closed")))
      else (echo, .send remote datagram .count)
  | .count =>
      (echo.modifySession number fun session => { session with echoed := session.echoed + 1 },
        .done (.ok datagram.length))

/-! ## Learning the identifier, and closing -/

/-- Tells a session its identifier; only the first one counts. -/
def assign (echo : Echo) (number : Nat) (identifier : ConnectionId) : Echo :=
  echo.modifySession number fun session =>
    { session with identifier? := session.identifier? <|> some identifier }

inductive ClosePoint where
  /-- Raise the session's closing flag. -/
  | shut
  /-- Give the place among the active sessions back. -/
  | vacate
  /-- Note that the session has ended. -/
  | conclude
  deriving DecidableEq, Repr

def closeStep (echo : Echo) (number : Nat) : ClosePoint → Echo × Progress ClosePoint Unit
  | .shut =>
      if echo.sessions[number]?.all (·.closed) then (echo, .done ())
      else (echo.modifySession number fun session => { session with closed := true }, .goto .vacate)
  | .vacate => ({ echo with active := echo.active - 1 }, .goto .conclude)
  | .conclude =>
      match echo.sessions[number]? with
      | some ⟨some identifier, _, _, echoed⟩ =>
          ({ echo with ended := echo.ended ++ [(identifier, echoed)] }, .done ())
      | _ => (echo, .done ())

end Echo

end DatagramMux
