import DatagramMux.Connection.Steps
import DatagramMux.Echo.Basic
import DatagramMux.Scenario.Event
import DatagramMux.Scenario.Script

/-!
# The world of a scenario

The connection of a scenario and all its collaborators, and a stack of what is still to happen:
frames of the connection, steps of scripts, and what collaborators have begun and not finished.
Whatever a collaborator does inside a call lies above the answer to that call, so calls nest as they
would on the stack of one thread.
-/

namespace DatagramMux.Scenario

/-- What a write leads to when it has ended. -/
inductive Callback where
  /-- Note the outcome and take some steps. -/
  | tagged (tag : String) (continuation : List Step)
  | silent

/-- A frame of the connection of a scenario. -/
abbrev CoreFrame := Connection.ConnectionFrame Callback Party

/-- What the connection of a scenario asks of the collaborators. -/
abbrev CoreRequest := Connection.Request Callback Party

inductive Item where
  /-- The connection goes on. -/
  | frame (frame : CoreFrame)
  /-- The closing of all sessions in the registry beside the connection goes on. -/
  | sweep (frame : Registry.SweepFrame Party Unit)
  | steps (steps : List Step)
  /-- A request of the connection is answered. -/
  | answer (request : CoreRequest) (reply : Connection.Reply request)
  | fill (buffer : Buffer) (plan : FillPlan Step)
  /-- The endpoint decides about the completion of a write. -/
  | settle (ticket : Nat) (treatment : Treatment)
  /-- The factory decides about a session. -/
  | decide (arrival : Connection.Arrival) (identifier : ConnectionId) (plan : CreatePlan Step)
  /-- The echo factory creates a session. -/
  | creating (arrival : Connection.Arrival) (identifier : ConnectionId) (point : Echo.CreatePoint)
  /-- An echo session processes a datagram, for the connection or for the script. -/
  | processing (number : Nat) (arrival : Connection.Arrival) (identifier? : Option ConnectionId)
      (point : Echo.ProcessPoint)
  | closing (number : Nat) (point : Echo.ClosePoint)
  | tell (event : Event)

/-- A connection among its collaborators. -/
structure World where
  setup : Setup
  connection : Connection Callback Party
  /-- Whether the script still keeps the connection alive. -/
  owned : Bool := true
  /-- The registry beside the connection. -/
  registry : Registry Party := .empty
  fills : List (FillPlan Step) := []
  writes : List (WritePlan Step) := []
  creates : List (CreatePlan Step) := []
  echo : Echo
  pool : BufferPool
  /-- Whether the endpoint says that it is open. -/
  endpointOpen : Bool := true
  /-- The tickets of the deferred writes, oldest first. -/
  deferred : List Nat := []
  /-- How many writes reached the endpoint. -/
  written : Nat := 0
  /-- What the scripted sessions are yet to do, in order of creation. -/
  sessions : List (SessionPlan Step) := []
  /-- The session that the script holds. -/
  held? : Option Party := none
  /-- What was noted, latest first. -/
  notes : List Event := []
  stack : List Item := []

namespace World

/-- The world before the first step; the configuration may be refused. -/
def new (setup : Setup) : Except MuxError World :=
  let world (connection : Connection Callback Party) : World :=
    { setup := setup, connection := connection, echo := { limit := setup.echoLimit?.getD 0 },
      pool := .new setup.poolLimit }
  match setup.subject with
  | .connection => (Connection.new setup.config).map world
  | .flusher | .registry => .ok (world { holders := 0 })

def note (world : World) (event : Event) : World := { world with notes := event :: world.notes }

/-- Puts something on top of what is still to happen. -/
def push (world : World) (items : List Item) : World := { world with stack := items ++ world.stack }

def enter (method : Connection.Method Callback) : List Item :=
  ((Connection.component Callback Party).body method).map .frame

def enterFlusher (method : Flusher.Method Callback) : List Item :=
  [.frame (.task (.flusher (Flusher.begun method)))]

/-- Whether the registry of the connection is the one that the script works on. -/
def usesConnection (world : World) : Bool :=
  world.owned && world.setup.subject matches .connection

def currentRegistry (world : World) : Registry Party :=
  if world.usesConnection then world.connection.registry else world.registry

def setRegistry (world : World) (registry : Registry Party) : World :=
  if world.usesConnection then
    { world with connection := { world.connection with registry := registry } }
  else { world with registry := registry }

/-- Adds a scripted session and tells its number. -/
def addSession (world : World) (plan : SessionPlan Step) : World × Nat :=
  ({ world with sessions := world.sessions ++ [plan] }, world.sessions.length)

/-! ## Sessions -/

def closeParty (world : World) : Party → World × List Item
  | .scripted number =>
      let steps := (world.sessions[number]?.map (·.onClose)).getD []
      (world.note (.sessionClose number), [.steps steps])
  | .echo number => (world, [.closing number .shut])

def assignParty (world : World) (identifier : ConnectionId) : Party → World × List Item
  | .scripted number =>
      let steps := (world.sessions[number]?.map (·.onIdentifier)).getD []
      (world.note (.assigned number identifier), [.steps steps])
  | .echo number => ({ world with echo := world.echo.assign number identifier }, [])

/-- What a scripted session does with a datagram, and the result that it reports. -/
def processScripted (world : World) (number : Nat) (remote : SocketAddress) (datagram : Bytes) :
    World × List Step × Except MuxError Nat :=
  let world := world.note (.process number remote datagram)
  match world.sessions[number]? with
  | some ⟨plan :: rest, onIdentifier, onClose⟩ =>
      let world := { world with
        sessions := world.sessions.set number ⟨rest, onIdentifier, onClose⟩ }
      let result := match plan.error? with
        | some error => .error error
        | none => .ok (plan.consumed?.getD datagram.length)
      (world, plan.steps, result)
  | _ => (world, [], .ok datagram.length)

/-! ## Requests of the connection -/

/-- What the collaborators do when the connection asks something of them. -/
def serve (world : World) : CoreRequest → World
  | .acquire least direct =>
      let (pool, buffer) := world.pool.acquire least
      { world.note (.acquire least direct) with pool := pool }.push
        [.answer (.acquire least direct) buffer]
  | .release buffer ending =>
      { world.note .release with pool := world.pool.release buffer }.push
        [.answer (.release buffer ending) ()]
  | .fill buffer =>
      match world.fills with
      | [] =>
          (world.note (.fillEmpty (!buffer.contents.isEmpty))).push
            [.answer (.fill buffer) (buffer, .ok .empty)]
      | plan :: rest =>
          { world with fills := rest }.push [.steps plan.before, .fill buffer plan]
  | .interest => (world.note .interest).push [.answer .interest ()]
  | .shutdownOutput => (world.note .shutdownOutput).push [.answer .shutdownOutput ()]
  | .isOpen => (world.note .isOpen).push [.answer .isOpen world.endpointOpen]
  | .closeEndpoint =>
      let world := { world.note .endpointClose with endpointOpen := false }
      if world.setup.closeFailsDeferred then
        let failure : Flusher.Completion := .error (.described .notConnected "endpoint closed")
        let completions := world.deferred.flatMap fun ticket => enter (.complete ticket failure)
        { world with deferred := [] }.push (completions ++ [Item.answer .closeEndpoint ()])
      else world.push [.answer .closeEndpoint ()]
  | .create arrival identifier =>
      let world := world.note (.create arrival.remote arrival.datagram)
      if world.setup.echoLimit?.isSome then
        world.push [.creating arrival identifier .consider]
      else
        match world.creates with
        | [] => world.push [.decide arrival identifier {}]
        | plan :: rest =>
            let reply : List Item :=
              if plan.reply then
                enter (.send ⟨.silent, arrival.remote, [arrival.datagram]⟩)
              else []
            let decision : List Item := [.steps plan.steps, .decide arrival identifier plan]
            { world with creates := rest }.push (reply ++ decision)
  | .assign party identifier buffer =>
      let (world, items) := world.assignParty identifier party
      world.push (items ++ [.answer (.assign party identifier buffer) ()])
  | .process (.scripted number) arrival identifier =>
      let (world, steps, result) := world.processScripted number arrival.remote arrival.datagram
      world.push
        [.steps steps, .answer (.process (.scripted number) arrival identifier) result]
  | .process (.echo number) arrival identifier =>
      world.push [.processing number arrival (some identifier) .consult]
  | .discard party buffer =>
      let (world, items) := world.closeParty party
      world.push (items ++ [.answer (.discard party buffer) ()])
  | .sweep (.close party left closed purpose) =>
      let (world, items) := world.closeParty party
      world.push (items ++ [.answer (.sweep (.close party left closed purpose)) ()])
  | .sweep (.report closed purpose) =>
      (world.note (.closedAll closed)).push [.answer (.sweep (.report closed purpose)) ()]
  | .flusher (.write ticket entry) =>
      let event := Event.write world.written entry.address
        world.connection.flusher.outstanding.length entry.buffers
      let world := { world.note event with written := world.written + 1 }
      let plan : WritePlan Step := world.writes.head?.getD { treatment := world.setup.writes }
      { world with writes := world.writes.tail }.push
        [.steps plan.before, .settle ticket plan.treatment, .steps plan.after,
          .answer (.flusher (.write ticket entry)) ()]
  | .flusher (.notify callback outcome next) =>
      let answer : Item := .answer (.flusher (.notify callback outcome next)) ()
      match callback with
      | .tagged tag continuation =>
          (world.note (.callback tag outcome)).push [.steps continuation, answer]
      | .silent => world.push [answer]
  | .flusher .failure => world.push [.answer (.flusher .failure) ()]

/-! ## What collaborators do -/

/-- The endpoint fills a buffer as planned. -/
def fillBuffer (world : World) (buffer : Buffer) (plan : FillPlan Step) : World :=
  let stale := !buffer.contents.isEmpty
  let reply (event : Event) (buffer : Buffer) (result : Except IoError Fill) : World :=
    (world.note event).push [.answer (.fill buffer) (buffer, result)]
  if plan.closed then reply (.fillClosed stale) buffer (.ok .closed)
  else if plan.empty then reply (.fillEmpty stale) buffer (.ok .empty)
  else
    match plan.error? with
    | some kind =>
        reply (.fillError kind stale) buffer (.error (.described kind "scripted failure"))
    | none =>
        let most := plan.datagram.length
        let length := min most (plan.length?.getD most)
        reply (.fill length plan.remote stale)
          { contents := plan.datagram, capacity := max buffer.capacity most }
          (.ok (.datagram length plan.remote))

/-- The endpoint decides about the completion of a write. -/
def settle (world : World) (ticket : Nat) : Treatment → World
  | .succeed => world.push (enter (.complete ticket (.ok ())))
  | .fail kind text => world.push (enter (.complete ticket (.error (.described kind text))))
  | .forget => world
  | .defer => { world with deferred := world.deferred ++ [ticket] }

/-- Whether the factory's general rule makes a session for a datagram. -/
def accepts (world : World) (datagram : Bytes) : Bool :=
  match world.setup.factory with
  | .long => HeaderForm.of? datagram = some .long
  | .all => true
  | .none => false

/-- The factory decides about a session as planned. -/
def decide (world : World) (arrival : Connection.Arrival) (identifier : ConnectionId)
    (plan : CreatePlan Step) : World :=
  let reply (world : World) (result : Except MuxError (Option Party)) : World :=
    world.push [.answer (.create arrival identifier) result]
  match plan.error? with
  | some error => reply (world.note (.creationFailed error)) (.error error)
  | none =>
      if plan.accept?.getD (world.accepts arrival.datagram) then
        let (world, number) := world.addSession plan.session
        reply (world.note (.created (some (.scripted number)))) (.ok (some (.scripted number)))
      else reply (world.note (.created none)) (.ok none)

/-- The echo factory takes a step in creating a session. -/
def create (world : World) (arrival : Connection.Arrival) (identifier : ConnectionId)
    (point : Echo.CreatePoint) : World :=
  let (echo, progress) := world.echo.createStep arrival.remote arrival.datagram point
  let world := { world with echo := echo }
  match progress with
  | .goto next => world.push [.creating arrival identifier next]
  | .send remote datagram next =>
      world.push
        (enter (.send ⟨.silent, remote, [datagram]⟩) ++ [.creating arrival identifier next])
  | .done number? =>
      let party? := number?.map Party.echo
      (world.note (.created party?)).push [.answer (.create arrival identifier) (.ok party?)]

/-- An echo session takes a step in processing a datagram. -/
def process (world : World) (number : Nat) (arrival : Connection.Arrival)
    (identifier? : Option ConnectionId) (point : Echo.ProcessPoint) : World :=
  let (echo, progress) := world.echo.processStep number arrival.remote arrival.datagram point
  let world := { world with echo := echo }
  match progress with
  | .goto next => world.push [.processing number arrival identifier? next]
  | .send remote datagram next =>
      world.push
        (enter (.send ⟨.silent, remote, [datagram]⟩) ++
          [.processing number arrival identifier? next])
  | .done result =>
      match identifier? with
      | some identifier =>
          world.push [.answer (.process (.echo number) arrival identifier) result]
      | none => world.note (.processed result)

def close (world : World) (number : Nat) (point : Echo.ClosePoint) : World :=
  let (echo, progress) := world.echo.closeStep number point
  let world := { world with echo := echo }
  match progress with
  | .goto next => world.push [.closing number next]
  | .send _ _ next => world.push [.closing number next]
  | .done () => world

/-! ## Steps of the script -/

/-- Registers a session with the registry that the script works on. -/
def register (world : World) (identifier : ConnectionId) (party : Party)
    (event : Option MuxError → Event) : World :=
  match world.currentRegistry.insert? identifier party with
  | some registry => (world.setRegistry registry).note (event none)
  | none => world.note (event (some (.duplicateConnectionId identifier)))

/-- Enters the connection with a method, if the script still has one. -/
def call (world : World) (method : Connection.Method Callback) : World :=
  if world.owned then world.push (enter method) else world.note .noConnection

def take (world : World) : Step → World
  | .push plans => { world with fills := world.fills ++ plans }
  | .planWrites plans => { world with writes := world.writes ++ plans }
  | .planCreates plans => { world with creates := world.creates ++ plans }
  | .planProcesses number plans =>
      { world with
        sessions := world.sessions.modify number fun session =>
          { session with process := session.process ++ plans } }
  | .setOpen isOpen => { world with endpointOpen := isOpen }
  | .note tag => world.note (.note tag)
  | .fillable => world.call .fillable
  | .close =>
      if world.setup.subject matches .flusher then world.push (enterFlusher .close)
      else world.call .close
  | .closeSession identifier => world.call (.closeSession identifier)
  | .drop =>
      if world.owned then { world with owned := false }.push (enter .abandon) else world
  | .showConfig =>
      if world.owned then
        let (pool, buffer) := world.pool.acquire 0
        { ((world.note (.acquire 0 false)).note .release).note
            (.configuration world.connection.config) with pool := pool.release buffer }
      else world.note .noConnection
  | .write .connection tag remote buffers continuation =>
      let entry : WriteEntry Callback := ⟨.tagged tag continuation, remote, buffers⟩
      if world.setup.subject matches .flusher then world.push (enter (.send entry))
      else world.call (.write entry)
  | .write .writer tag remote buffers continuation =>
      world.push (enter (.send ⟨.tagged tag continuation, remote, buffers⟩))
  | .send remote datagram => world.push (enter (.send ⟨.silent, remote, [datagram]⟩))
  | .burst count =>
      world.push
        [.steps ((List.range count).map fun index =>
          .write .connection ("b" ++ toString index) (.v4 127 0 0 1 9000)
            [Bytes.ofWord32 index.toUInt32] [])]
  | .iterate => world.push (enterFlusher .iterate)
  | .complete error? =>
      match world.deferred with
      | [] => world.note .nothingDeferred
      | ticket :: rest =>
          let completion : Flusher.Completion := match error? with
            | some (kind, text) => .error (.described kind text)
            | none => .ok ()
          { world with deferred := rest }.push (enter (.complete ticket completion))
  | .insertKnown identifier number =>
      world.register identifier (.scripted number) (.inserted (.scripted number))
  | .insertNew identifier plan =>
      let (world, number) := world.addSession plan
      world.register identifier (.scripted number) (.inserted (.scripted number))
  | .lookup identifier hold =>
      let party? := world.currentRegistry.lookup? identifier
      { world.note (.lookup party?) with held? := if hold then party? else world.held? }
  | .remove identifier hold =>
      let (registry, party?) := world.currentRegistry.remove identifier
      { (world.setRegistry registry).note (.removed party?) with
        held? := if hold then party? else world.held? }
  | .contains identifier =>
      world.note (.contains (world.currentRegistry.contains identifier))
  | .closeAll =>
      if world.usesConnection then world.push (enter .closeSessions)
      else world.push [.sweep (.task (.list ()))]
  | .insertHeld identifier =>
      match world.held? with
      | some party => world.register identifier party .insertedHeld
      | none => world
  | .closeHeld =>
      match world.held? with
      | some party =>
          let (world, items) := world.closeParty party
          world.push items
      | none => world
  | .processHeld remote datagram =>
      match world.held? with
      | some (.scripted number) =>
          let (world, steps, result) := world.processScripted number remote datagram
          world.push [.steps steps, .tell (.processed result)]
      | some (.echo number) =>
          world.push [.processing number ⟨.empty 0, remote, datagram⟩ none .consult]
      | none => world

/-! ## Moves -/

/-- A step in closing all sessions of the registry beside the connection. -/
def sweep (world : World) : Registry.SweepFrame Party Unit → World
  | .task task =>
      let (registry, frames) := Registry.sweepStep world.registry task
      { world with registry := registry }.push (frames.map .sweep)
  | .call (.close party left closed purpose) =>
      let (world, items) := world.closeParty party
      world.push (items ++ [.sweep (.inside (.close party left closed purpose))])
  | .call (.report closed _) => world.note (.closedAll closed)
  | .inside request => world.push ((Registry.sweepResume request).map .sweep)

/-- What happens next, when it has been taken from the stack. -/
def perform (world : World) : Item → World
  | .frame (.task task) =>
      let (connection, frames) := Connection.step world.connection task
      { world with connection := connection }.push (frames.map .frame)
  | .frame (.call request) => world.serve request
  | .frame (.inside _) => world
  | .sweep frame => world.sweep frame
  | .steps [] => world
  | .steps (step :: rest) => (world.push [.steps rest]).take step
  | .answer request reply => world.push ((Connection.resumed request reply).map .frame)
  | .fill buffer plan => world.fillBuffer buffer plan
  | .settle ticket treatment => world.settle ticket treatment
  | .decide arrival identifier plan => world.decide arrival identifier plan
  | .creating arrival identifier point => world.create arrival identifier point
  | .processing number arrival identifier? point => world.process number arrival identifier? point
  | .closing number point => world.close number point
  | .tell event => world.note event

/-- One move; there is none when nothing is left to happen. -/
def move (world : World) : Option World :=
  match world.stack with
  | [] => none
  | item :: rest => some ({ world with stack := rest }.perform item)

/-- Moves until nothing is left to happen, but at most a given number of times. -/
def settleDown : Nat → World → World
  | 0, world => world
  | bound + 1, world =>
      match world.move with
      | none => world
      | some next => settleDown bound next

end World

/-! ## A whole scenario -/

/-- What is seen of a world between two steps of the script. -/
structure Snapshot where
  events : List String
  condition : Flusher.Condition
  queued : Nat
  closed : Bool
  isOpen : Bool
  /-- Whether the script still keeps the connection alive. -/
  owned : Bool
  identifiers : List String
  stats : Stats
  pool : BufferPool
  /-- The number of active echo sessions, where there are any. -/
  active? : Option UInt64

/-- What is seen of a world. -/
def World.snapshot (world : World) : Snapshot where
  events := (orderClosings [] world.notes.reverse).map Event.text
  condition := world.connection.flusher.condition
  queued := world.connection.flusher.queued
  closed := world.connection.closed
  isOpen := world.endpointOpen
  owned := world.owned
  identifiers := (world.currentRegistry.identifiers.map ConnectionId.text).mergeSort (· ≤ ·)
  stats := world.connection.stats
  pool := world.pool
  active? := world.setup.echoLimit?.map fun _ => world.echo.active

/-- Takes the steps of a script one by one, and looks at the world after each. -/
def playSteps (bound : Nat) (world : World) : List Step → List Snapshot
  | [] => []
  | step :: rest =>
      let world := ({ world with notes := [], stack := [.steps [step]] } : World).settleDown bound
      world.snapshot :: playSteps bound world rest

/--
Plays a script. Every plan and step is used once at most, and what one of them sets off is at most
proportional to how many sessions and writes there are, hence the bound on the number of moves.
-/
def play (setup : Setup) (steps : List Step) : Except MuxError (List Snapshot) :=
  (World.new setup).map fun world =>
    let size := sizeOfSteps steps + 4
    world.snapshot :: playSteps (64 * size * size) world steps

end DatagramMux.Scenario
