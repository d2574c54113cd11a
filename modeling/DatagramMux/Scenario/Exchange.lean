import DatagramMux.Endpoint.Udp
import DatagramMux.Scenario.Peers

/-!
# An endpoint among peers

A scenario in which a bare datagram endpoint is used directly and exchanges datagrams with peers.
When a write is completed, further steps may be taken at that moment.
-/

namespace DatagramMux.Scenario

namespace Exchange

inductive Step where
  | peerSend (number : Nat) (datagram : Bytes)
  | peerReceive (number : Nat)
  /-- Lay down what the operating system answers to coming calls. -/
  | force (sendAnswers receiveAnswers : Answers)
  | fill (capacity : Nat)
  /-- Write to a peer, or to the endpoint itself. -/
  | write (tag : String) (peer? : Option Nat) (buffers : List Bytes) (continuation : List Step)
  | writable
  | interest
  | takeInterest
  | shutdownOutput
  | close

inductive Result where
  | nothing
  | flag (value : Bool)
  | datagrams (datagrams : List Bytes)
  | closed (contents : Bytes)
  | empty (contents : Bytes)
  | failed (kind : IoKind) (contents : Bytes)
  | filled (length : Nat) (sender : String) (contents : Bytes)
  deriving DecidableEq, Repr

/-- Something that happens while a step is taken. -/
inductive Note where
  /-- A write was completed. -/
  | completed (tag : String) (completion : Flusher.Completion)
  /-- A step that was taken at that moment yielded something. -/
  | yielded (result : Result)

/-- The line of a completed write. -/
def completionText (tag : String) : Flusher.Completion → String
  | .ok () => tag ++ " ok"
  | .error (.system kind) => tag ++ " os " ++ kind.name
  | .error (.described kind text) => tag ++ " " ++ kind.name ++ ": " ++ text

/-- What a completion leads to. -/
structure Sequel where
  tag : String
  continuation : List Step

/-- Something that is still to happen. -/
inductive Item where
  | frame (frame : Udp.UdpFrame Sequel)
  /-- Steps are taken, for their result or inside a completion. -/
  | steps (steps : List Step) (inside : Bool)

end Exchange

/-- An endpoint and its peers. -/
structure Exchange where
  udp : Udp Exchange.Sequel
  peers : Peers
  /-- What happened during the step, latest first. -/
  notes : List Exchange.Note := []
  /-- What the step yielded. -/
  result : Exchange.Result := .nothing
  fault? : Option PeerFault := none
  stack : List Exchange.Item := []

namespace Exchange

/-- Puts something on top of what is still to happen. -/
def push (exchange : Exchange) (items : List Item) : Exchange :=
  { exchange with stack := items ++ exchange.stack }

def enter (exchange : Exchange) (method : Udp.Method Sequel) : Exchange :=
  exchange.push [.frame (.task (Udp.begun method))]

/-- Keeps what a step yielded. -/
def yield (exchange : Exchange) (inside : Bool) (result : Result) : Exchange :=
  if inside then { exchange with notes := .yielded result :: exchange.notes }
  else { exchange with result := result }

/-- What filling a buffer yielded. -/
def fillResult (peers : Peers) (buffer : Buffer) : Except IoError Fill → Result
  | .ok .closed => .closed buffer.contents
  | .ok .empty => .empty buffer.contents
  | .ok (.datagram length sender) =>
      .filled length (peers.senderName sender) buffer.contents
  | .error error => .failed error.kind buffer.contents

/-- The address of a peer or of the endpoint itself; there is none if the peer is missing. -/
def receiver? (exchange : Exchange) : Option Nat → Option SocketAddress
  | none => some exchange.udp.socket.address
  | some number =>
      if number < exchange.peers.seen.length then some (Peers.address number) else none

def take (exchange : Exchange) (inside : Bool) : Step → Exchange
  | .peerSend number datagram =>
      match exchange.peers.send exchange.udp.socket number datagram with
      | .ok socket => { exchange with udp := { exchange.udp with socket := socket } }
      | .error fault => { exchange with fault? := some fault }
  | .peerReceive number =>
      if number < exchange.peers.seen.length then
        let most := exchange.udp.socket.sent.length
        let (peers, datagrams) := exchange.peers.look exchange.udp.socket number most
        { exchange with peers := peers }.yield inside (.datagrams datagrams)
      else { exchange with fault? := some .missing }
  | .force sendAnswers receiveAnswers =>
      let socket := exchange.udp.socket
      let socket := { socket with
        sendAnswers := socket.sendAnswers ++ sendAnswers
        receiveAnswers := socket.receiveAnswers ++ receiveAnswers }
      { exchange with udp := { exchange.udp with socket := socket } }
  | .fill capacity =>
      let (udp, buffer, result) := exchange.udp.fill (.empty capacity)
      { exchange with udp := udp }.yield inside (fillResult exchange.peers buffer result)
  | .write tag peer? buffers continuation =>
      match exchange.receiver? peer? with
      | some receiver => exchange.enter (.write receiver buffers ⟨tag, continuation⟩)
      | none => { exchange with fault? := some .missing }
  | .writable => exchange.enter .writable
  | .interest => { exchange with udp := exchange.udp.fillInterested }
  | .takeInterest =>
      let (udp, taken) := exchange.udp.takeInterest
      { exchange with udp := udp }.yield inside (.flag taken)
  | .shutdownOutput => exchange.enter .shutdownOutput
  | .close => exchange.enter .close

/-- What happens next, when it has been taken from the stack. -/
def perform (exchange : Exchange) : Item → Exchange
  | .frame (.task task) =>
      let (udp, frames) := exchange.udp.step task
      { exchange with udp := udp }.push (frames.map .frame)
  | .frame (.call (.complete sequel completion)) =>
      { exchange with notes := .completed sequel.tag completion :: exchange.notes }.push
        [.steps sequel.continuation true]
  | .frame (.inside _) => exchange
  | .steps [] _ => exchange
  | .steps (step :: rest) inside => (exchange.push [.steps rest inside]).take inside step

/--
Moves until nothing is left to happen or something went wrong, but at most a given number of times.
-/
def settleDown : Nat → Exchange → Exchange
  | 0, exchange => exchange
  | bound + 1, exchange =>
      match exchange.fault?, exchange.stack with
      | none, item :: rest => settleDown bound ({ exchange with stack := rest }.perform item)
      | _, _ => exchange

mutual

def Step.size : Step → Nat
  | .write _ _ _ continuation => 1 + sizeOfSteps continuation
  | _ => 1

def sizeOfSteps : List Step → Nat
  | [] => 0
  | step :: rest => step.size + sizeOfSteps rest

end

/-- What is seen of an endpoint after a step. -/
structure Snapshot where
  result : Result
  /-- What happened during the step, in order. -/
  notes : List Note
  isOpen : Bool
  parked : Bool

/-- Takes steps one by one, and looks at the endpoint after each. -/
def playSteps (bound : Nat) (exchange : Exchange) : List Step → Except PeerFault (List Snapshot)
  | [] => .ok []
  | step :: rest =>
      let fresh : Exchange :=
        { exchange with notes := [], result := .nothing, stack := [.steps [step] false] }
      let exchange := fresh.settleDown bound
      match exchange.fault? with
      | some fault => .error fault
      | none =>
          let snapshot : Snapshot :=
            ⟨exchange.result, exchange.notes.reverse, exchange.udp.isOpen,
              exchange.udp.parked.isSome⟩
          (playSteps bound exchange rest).map (snapshot :: ·)

/--
Plays a script on an endpoint that was bound already. A step takes a bounded number of moves and is
taken once at most, hence the bound.
-/
def play (socket : Socket) (peers : Nat) (steps : List Step) : Except PeerFault (List Snapshot) :=
  let exchange : Exchange := { udp := { socket := socket }, peers := .new peers }
  playSteps (16 * (sizeOfSteps steps + 4)) exchange steps

end Exchange

end DatagramMux.Scenario
