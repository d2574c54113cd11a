import DatagramMux.CommandLine.Parse
import DatagramMux.Scenario.Service

/-!
# A whole run of the echo server

The echo server from its arguments to its exit code: the arguments are read, a server is made, and
its event loop runs while peers talk to it, until it fails or is told to end.
-/

namespace DatagramMux.Scenario

namespace Launch

/-- What happens while the event loop runs. -/
inductive Step where
  | peerSend (number : Nat) (datagram : Bytes)
  /-- Take the next datagrams that come to a peer. -/
  | wait (number count : Nat)
  deriving DecidableEq, Repr

/-- What the operating system is to answer to all calls. -/
structure SystemAnswers where
  making : BindAnswers := {}
  send : Answers := []
  receive : Answers := []
  poll : Answers := []
  deriving DecidableEq, Repr

/-- What is seen of a run. -/
structure Account where
  exitCode : Nat
  /-- What each wait has taken. -/
  replies : List (List Bytes) := []
  opened : Nat := 0
  rejected : Nat := 0
  /-- The sessions that were closed, with how many datagrams each sent back. -/
  closed : List (String × UInt64) := []
  /-- How often the event loop has returned. -/
  stopped : Nat := 0
  writeError? : Option String := none
  startError? : Option String := none
  serverError? : Option String := none
  deriving DecidableEq, Repr

/-- An address that somebody else has bound already. -/
def takenAddress : SocketAddress := .v4 127 0 0 1 4434

/-- Takes one step and lets the event loop go on until it waits. -/
def take (bound : Nat) (service : Service) :
    Step → Except PeerFault (Service × Option (List Bytes))
  | .peerSend number datagram => do
      let socket ← service.peers.send service.socket number datagram
      return ((service.setSocket socket).settleDown bound, none)
  | .wait number count =>
      let (peers, datagrams) := service.peers.look service.socket number count
      if datagrams.length = count then .ok ({ service with peers := peers }, some datagrams)
      else .error .silent

/-- Takes steps one by one, and collects what the waits have taken. -/
def takeAll (bound : Nat) (service : Service) (replies : List (List Bytes)) :
    List Step → Except PeerFault (Service × List (List Bytes))
  | [] => .ok (service, replies.reverse)
  | step :: rest => do
      let (service, reply?) ← take bound service step
      takeAll bound service (reply?.toList ++ replies) rest

/-- The order of closed sessions in an account: by identifier, then by count. -/
def precedes (first second : String × UInt64) : Bool :=
  first.1 < second.1 || (first.1 == second.1 && first.2 ≤ second.2)

/-- The account of a run whose event loop has returned. -/
def account (service : Service) (replies : List (List Bytes)) (result : Except MuxError Unit) :
    Account :=
  let echo := service.server.2
  let closed := echo.ended.map fun (identifier, echoed) => (identifier.text, echoed)
  let error? := match result with
    | .ok () => none
    | .error error => some error.message
  { exitCode := if error?.isSome then 1 else 0
    replies := replies
    opened := echo.opened
    rejected := echo.rejected
    closed := closed.mergeSort precedes
    stopped := 1
    writeError? := service.writeErrors.getLast?.map IoError.message
    serverError? := error? }

/--
Lets a server run while steps are taken, and tells it to end afterwards unless it ends by itself.
-/
def serve (server : Server Unit Nat) (limit : UInt64) (answers : SystemAnswers) (peers : Nat)
    (endsItself : Bool) (steps : List Step) : Except PeerFault Account := do
  let bound := Service.bound steps.length
  let service := (Service.new server limit peers).force answers.send answers.receive answers.poll
  let service := (service.enter .run).settleDown bound
  let (service, replies) ← takeAll bound service [] steps
  let service := if endsItself then service else (service.setShutdown true).settleDown bound
  match service.server.1.returned? with
  | some (.loop result) => return account service replies result
  | _ => .error .silent

/-- A run of the echo server with given arguments. -/
def run (arguments : List String) (answers : SystemAnswers) (routed : Bool) (peers : Nat)
    (endsItself : Bool) (steps : List Step) : Except PeerFault Account :=
  match CommandLine.parse arguments with
  | .error failure => .ok { exitCode := failure.exitCode }
  | .ok settings =>
      let config := settings.toConfig
      let taken := config.bindAddress = takenAddress
      match Server.bind answers.making config taken routed with
      | .error error => .ok { exitCode := 1, startError? := some error.message }
      | .ok server => serve server settings.maxSessions answers peers endsItself steps

end Launch

end DatagramMux.Scenario
