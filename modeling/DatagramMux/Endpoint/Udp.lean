import DatagramMux.Connection.Steps
import DatagramMux.Endpoint.Socket
import DatagramMux.Flusher.Steps
import DatagramMux.Pool.BufferPool

/-!
# The datagram endpoint

The endpoint of a connection on a socket. A write is sent at once; if that would block, it is parked
until the socket is writable. Deciding between sending and parking happens under a lock, so that no
writable event is missed in between, and completions are reported only after the lock has been
released. Each step that takes the lock, decides under it, or releases it is atomic, and so is each
access to one of the flags.
-/

namespace DatagramMux

namespace Udp

/-- A datagram on its way, with a token for the one who waits for its completion. -/
structure Outgoing (Token : Type) where
  receiver : SocketAddress
  datagram : Bytes
  token : Token
  deriving DecidableEq

end Udp

/-- What a datagram endpoint remembers. -/
structure Udp (Token : Type) where
  socket : Socket
  /-- Whether the event loop is to run the read loop at the next readable event. -/
  interest : Bool := true
  inputOpen : Bool := true
  outputOpen : Bool := true
  /-- The write that waits for the socket to become writable. -/
  parked : Option (Udp.Outgoing Token) := none
  /-- Whether somebody holds the lock on the parked write. -/
  locked : Bool := false
  deriving DecidableEq

namespace Udp

variable {Token : Type}

def isOpen (udp : Udp Token) : Bool := udp.inputOpen || udp.outputOpen

/-- The error of writes that a closed endpoint gives up. -/
def closedError : IoError := .described .notConnected "endpoint closed"

/-- The error of writes after the output was shut down. -/
def shutDownError : IoError := .described .brokenPipe "output shut down"

inductive Task (Token : Type) where
  /-- Take the lock for a new write. -/
  | lockForWrite (outgoing : Outgoing Token)
  /-- Refuse, send or park a new write. -/
  | write (outgoing : Outgoing Token)
  /-- Take the lock for the parked write. -/
  | lockForRetry
  /-- Give up, send or park again the write that was parked, if any. -/
  | retry
  /-- Release the lock, and report a completion if there is one. -/
  | unlock (report? : Option (Token × Flusher.Completion))
  | closeInput
  | closeOutput
  /-- Take the lock for the last part of closing. -/
  | lockForClose
  /-- Give up the parked write, as the last part of closing. -/
  | giveUp
  | shutdownOutput

/-- What the endpoint asks of its surroundings. -/
inductive Request (Token : Type) where
  | complete (token : Token) (completion : Flusher.Completion)

/-- What may be asked of the endpoint's output. -/
inductive Method (Token : Type) where
  /-- Send buffers as one datagram. -/
  | write (receiver : SocketAddress) (buffers : List Bytes) (token : Token)
  /-- Send the parked write, since the socket is writable. -/
  | writable
  | shutdownOutput
  | close

abbrev UdpFrame (Token : Type) := Frame (Task Token) (Request Token)

/-- Sends a datagram or parks it, and tells whether to report a completion. -/
def sendOrPark (udp : Udp Token) (outgoing : Outgoing Token) :
    Udp Token × Option (Token × Flusher.Completion) :=
  match udp.socket.send outgoing.receiver outgoing.datagram with
  | (socket, .ok ()) => ({ udp with socket := socket }, some (outgoing.token, .ok ()))
  | (socket, .error .wouldBlock) =>
      ({ udp with socket := socket, parked := some outgoing }, none)
  | (socket, .error kind) =>
      ({ udp with socket := socket }, some (outgoing.token, .error (.system kind)))

def step (udp : Udp Token) : Task Token → Udp Token × List (UdpFrame Token)
  | .lockForWrite outgoing => ({ udp with locked := true }, [.task (.write outgoing)])
  | .write outgoing =>
      if udp.outputOpen then
        let (udp, report?) := udp.sendOrPark outgoing
        (udp, [.task (.unlock report?)])
      else (udp, [.task (.unlock (some (outgoing.token, .error shutDownError)))])
  | .lockForRetry => ({ udp with locked := true }, [.task .retry])
  | .retry =>
      match udp.parked with
      | none => (udp, [.task (.unlock none)])
      | some outgoing =>
          let udp := { udp with parked := none }
          if udp.outputOpen then
            let (udp, report?) := udp.sendOrPark outgoing
            (udp, [.task (.unlock report?)])
          else (udp, [.task (.unlock (some (outgoing.token, .error closedError)))])
  | .unlock report? =>
      ({ udp with locked := false },
        match report? with
        | none => []
        | some (token, completion) => [.call (.complete token completion)])
  | .closeInput => ({ udp with inputOpen := false }, [.task .closeOutput])
  | .closeOutput => ({ udp with outputOpen := false }, [.task .lockForClose])
  | .lockForClose => ({ udp with locked := true }, [.task .giveUp])
  | .giveUp =>
      ({ udp with parked := none },
        [.task (.unlock (udp.parked.map fun outgoing => (outgoing.token, .error closedError)))])
  | .shutdownOutput => ({ udp with outputOpen := false }, [])

def blocked (udp : Udp Token) : Task Token → Bool
  | .lockForWrite _ | .lockForRetry | .lockForClose => udp.locked
  | _ => false

/-- How the endpoint begins with what is asked of its output. -/
def begun : Method Token → Task Token
  | .write receiver buffers token => .lockForWrite ⟨receiver, buffers.flatten, token⟩
  | .writable => .lockForRetry
  | .shutdownOutput => .shutdownOutput
  | .close => .closeInput

def component (Token : Type) :
    Component (Udp Token) (Task Token) (Request Token) (Method Token) (fun _ => Unit) where
  body method := [.task (begun method)]
  step := step
  resume _ _ := []
  blocked := blocked

/-! ## The input -/

/--
Puts the oldest waiting datagram into a buffer: the room of the buffer is filled up, the datagram is
written over its beginning, and what is left of the filling is cut off. A datagram that is longer
than the room loses its end.
-/
def receive (udp : Udp Token) (buffer : Buffer) :
    Udp Token × Buffer × Except IoError Fill :=
  let whole := buffer.fillUp
  match udp.socket.receive with
  | (socket, .ok (sender, datagram)) =>
      let length := min datagram.length whole.contents.length
      ({ udp with socket := socket }, (whole.overwrite datagram).truncate length,
        .ok (.datagram length sender))
  | (socket, .error .wouldBlock) => ({ udp with socket := socket }, whole.clear, .ok .empty)
  | (socket, .error kind) =>
      ({ udp with socket := socket }, whole.clear, .error (.system kind))

/-- Fills a buffer with one datagram, unless the input is closed. -/
def fill (udp : Udp Token) (buffer : Buffer) : Udp Token × Buffer × Except IoError Fill :=
  if udp.inputOpen then udp.receive buffer else (udp, buffer, .ok .closed)

/-- Asks for the read loop at the next readable event. -/
def fillInterested (udp : Udp Token) : Udp Token := { udp with interest := true }

/-- Takes back the request for the read loop, and tells whether there was one. -/
def takeInterest (udp : Udp Token) : Udp Token × Bool :=
  ({ udp with interest := false }, udp.interest)

end Udp

end DatagramMux
