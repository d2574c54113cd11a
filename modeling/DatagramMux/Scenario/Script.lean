import DatagramMux.Config

/-!
# Scripts

A scenario drives a registry, a flusher or a connection among collaborators whose behaviour is laid
down in advance. A script is a list of steps; steps also stand wherever a collaborator does
something of its own, such as inside a write of the endpoint or inside a callback, and are taken at
that moment.
-/

namespace DatagramMux.Scenario

/-- What the endpoint does when it is asked for a datagram. -/
structure FillPlan (Step : Type) where
  before : List Step := []
  /-- The input has been shut down. -/
  closed : Bool := false
  /-- There is nothing at the moment. -/
  empty : Bool := false
  error? : Option IoKind := none
  datagram : Bytes := []
  remote : SocketAddress := .v4 127 0 0 1 9000
  /-- The reported length, where it is not that of the datagram. -/
  length? : Option Nat := none

/-- What the endpoint does with the completion of a write. -/
inductive Treatment where
  | succeed
  | fail (kind : IoKind) (text : String)
  | forget
  | defer
  deriving DecidableEq, Repr

/-- What the endpoint does when it is asked to write. -/
structure WritePlan (Step : Type) where
  before : List Step := []
  treatment : Treatment := .succeed
  after : List Step := []

structure ProcessPlan (Step : Type) where
  steps : List Step := []
  error? : Option MuxError := none
  /-- How many bytes it reports to have consumed, where that is not all of them. -/
  consumed? : Option Nat := none

structure SessionPlan (Step : Type) where
  /-- What it does with one datagram after the other. -/
  process : List (ProcessPlan Step) := []
  /-- What it does when it learns its identifier. -/
  onIdentifier : List Step := []
  /-- What it does when it is closed. -/
  onClose : List Step := []

/-- What the factory does when it is asked for a session. -/
structure CreatePlan (Step : Type) where
  /-- The datagram is sent back first. -/
  reply : Bool := false
  steps : List Step := []
  error? : Option MuxError := none
  /-- Whether there is a session, where this is not left to the factory's general rule. -/
  accept? : Option Bool := none
  session : SessionPlan Step := {}

/-- Through what a write is submitted. -/
inductive Route where
  | connection
  | writer
  deriving DecidableEq, Repr

inductive Step where
  /-- More for the endpoint to find when it is asked for datagrams. -/
  | push (plans : List (FillPlan Step))
  | planWrites (plans : List (WritePlan Step))
  | planCreates (plans : List (CreatePlan Step))
  | planProcesses (number : Nat) (plans : List (ProcessPlan Step))
  /-- Change whether the endpoint says that it is open. -/
  | setOpen (isOpen : Bool)
  | note (tag : String)
  | fillable
  | close
  | closeSession (identifier : ConnectionId)
  /-- Keep the connection alive no longer. -/
  | drop
  /-- Borrow a buffer of no size, give it back and show the configuration. -/
  | showConfig
  | write (route : Route) (tag : String) (remote : SocketAddress) (buffers : List Bytes)
      (continuation : List Step)
  /-- Write without caring for the outcome. -/
  | send (remote : SocketAddress) (datagram : Bytes)
  /-- Several writes in a row. -/
  | burst (count : Nat)
  | iterate
  /-- Report how the oldest deferred write ended. -/
  | complete (error? : Option (IoKind × String))
  /-- Register a session that exists already. -/
  | insertKnown (identifier : ConnectionId) (number : Nat)
  | insertNew (identifier : ConnectionId) (plan : SessionPlan Step)
  | lookup (identifier : ConnectionId) (hold : Bool)
  | remove (identifier : ConnectionId) (hold : Bool)
  | contains (identifier : ConnectionId)
  | closeAll
  /-- Register the session that is held. -/
  | insertHeld (identifier : ConnectionId)
  | closeHeld
  | processHeld (remote : SocketAddress) (datagram : Bytes)

/-- What a scenario is about. -/
inductive Subject where
  | registry
  | flusher
  | connection
  deriving DecidableEq, Repr

/-- Which datagrams the factory makes sessions for, where nothing else is laid down. -/
inductive FactoryRule where
  /-- Those with a long header. -/
  | long
  | all
  | none
  deriving DecidableEq, Repr

/-- What is fixed before the first step. -/
structure Setup where
  subject : Subject
  config : Config := {}
  /-- What the endpoint does with writes for which nothing else is laid down. -/
  writes : Treatment := .succeed
  factory : FactoryRule := .long
  /-- The limit of echo sessions, where those take the place of scripted ones. -/
  echoLimit? : Option UInt64 := none
  /-- How many buffers the pool keeps. -/
  poolLimit : Nat := 8
  /-- Whether closing the endpoint fails the deferred writes. -/
  closeFailsDeferred : Bool := false

/-! ## The size of a script

The number of plans and steps in it, from which follows how many moves it can lead to.
-/

mutual

/-- The number of plans and steps in a step. -/
def Step.size : Step → Nat
  | .push plans => 1 + sizeOfFills plans
  | .planWrites plans => 1 + sizeOfWrites plans
  | .planCreates plans => 1 + sizeOfCreates plans
  | .planProcesses _ plans => 1 + sizeOfProcesses plans
  | .write _ _ _ _ continuation => 1 + sizeOfSteps continuation
  | .burst count => 1 + count
  | .insertNew _ plan => 1 + sizeOfSession plan
  | _ => 1

/-- The number of plans and steps in a list of steps. -/
def sizeOfSteps : List Step → Nat
  | [] => 0
  | step :: rest => step.size + sizeOfSteps rest

/-- The number of plans and steps in what the endpoint does when it is asked for a datagram. -/
def sizeOfFill : FillPlan Step → Nat
  | ⟨before, _, _, _, _, _, _⟩ => 1 + sizeOfSteps before

/-- The number of plans and steps in what the endpoint does when it is asked for datagrams. -/
def sizeOfFills : List (FillPlan Step) → Nat
  | [] => 0
  | plan :: rest => sizeOfFill plan + sizeOfFills rest

/-- The number of plans and steps in what the endpoint does when it is asked to write. -/
def sizeOfWrite : WritePlan Step → Nat
  | ⟨before, _, after⟩ => 1 + sizeOfSteps before + sizeOfSteps after

/-- The number of plans and steps in what the endpoint does with writes. -/
def sizeOfWrites : List (WritePlan Step) → Nat
  | [] => 0
  | plan :: rest => sizeOfWrite plan + sizeOfWrites rest

/-- The number of plans and steps in what a session does with a datagram. -/
def sizeOfProcess : ProcessPlan Step → Nat
  | ⟨steps, _, _⟩ => 1 + sizeOfSteps steps

/-- The number of plans and steps in what a session does with datagrams. -/
def sizeOfProcesses : List (ProcessPlan Step) → Nat
  | [] => 0
  | plan :: rest => sizeOfProcess plan + sizeOfProcesses rest

/-- The number of plans and steps in what a session does. -/
def sizeOfSession : SessionPlan Step → Nat
  | ⟨process, onIdentifier, onClose⟩ =>
      1 + sizeOfProcesses process + sizeOfSteps onIdentifier + sizeOfSteps onClose

/-- The number of plans and steps in what the factory does for a datagram. -/
def sizeOfCreate : CreatePlan Step → Nat
  | ⟨_, steps, _, _, session⟩ => 1 + sizeOfSteps steps + sizeOfSession session

/-- The number of plans and steps in what the factory does for datagrams. -/
def sizeOfCreates : List (CreatePlan Step) → Nat
  | [] => 0
  | plan :: rest => sizeOfCreate plan + sizeOfCreates rest

end

end DatagramMux.Scenario
