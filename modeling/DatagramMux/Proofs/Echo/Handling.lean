import DatagramMux.Proofs.Echo.Hosting
import DatagramMux.Proofs.Echo.Reference
import DatagramMux.Proofs.Link.Flow
import DatagramMux.Scenario.Service

/-!
# How an echo server handles one datagram

The read loop of a server with echo sessions, step by step. At each point of it something is still
to be done for the datagram in hand: it is to be looked at, a session is to be registered for it, or
it is to be sent back. Together with what waits in the socket and what waits to be sent, this is
always what is still to be done of the reference.
-/

namespace DatagramMux.Echo

open Component
open Scenario (EchoServer EchoServerTask EchoServerRequest echoServer)

abbrev EchoFrame := Frame EchoServerTask EchoServerRequest

def serverTask (task : Server.Task Unit Nat) : EchoFrame := .task (.inner task)

def connectionTask (task : Connection.Task Unit Nat) : EchoFrame :=
  serverTask (.link (.connection task))

def endpointTask (task : Link.EndpointTask Unit) : EchoFrame := serverTask (.link (.endpoint task))

def hostLink (frame : Link.LinkFrame Unit Nat) : EchoFrame := liftHost (Server.liftLink frame)

def hostConnection (frame : Connection.ConnectionFrame Unit Nat) : EchoFrame :=
  hostLink (Link.liftConnection frame)

def withLink (state : EchoServer) (link : Link Unit Nat) : EchoServer :=
  ({ state.1 with link := link }, state.2)

def withUdp (state : EchoServer) (udp : Udp Nat) : EchoServer :=
  withLink state { state.1.link with udp := udp }

def withConnection (state : EchoServer) (connection : Connection Unit Nat) : EchoServer :=
  withLink state { state.1.link with connection := connection }

/-! ## What is still to be done -/

/-- What is still to be done for the datagram that is in hand. -/
structure Duty where
  /-- The datagram, if nothing was done for it yet. -/
  datagrams : List Parcel := []
  /-- The identifier that is going to be registered. -/
  known : List ConnectionId := []
  /-- What is going to be sent back. -/
  output : List Parcel := []
  /-- How many places among the active sessions are taken, but not registered. -/
  places : Nat := 0

def handling (arrival : Connection.Arrival) : Duty :=
  { datagrams := [(arrival.remote, arrival.datagram)] }

def sending (arrival : Connection.Arrival) : Duty :=
  { output := [(arrival.remote, arrival.datagram)] }

def admitting (identifier : ConnectionId) : Duty := { known := [identifier], places := 1 }

def Roomy (config : Config) (buffer : Buffer) : Prop :=
  config.readBufferSize.toNat ≤ buffer.capacity

/-- What a frame of the read loop takes for granted, and what is still to be done then. -/
inductive Handles (config : Config) (registry : Registry Nat) (echo : Echo) :
    EchoFrame → Duty → Prop where
  | borrow : Handles config registry echo (connectionTask .borrow) {}
  | lend (direct : Bool) :
      Handles config registry echo (serverTask (.lend config.readBufferSize.toNat direct)) {}
  | fill (buffer : Buffer) : buffer.contents = [] → Roomy config buffer →
      Handles config registry echo (endpointTask (.fill buffer)) {}
  | receive (buffer : Buffer) : buffer.contents = [] → Roomy config buffer →
      Handles config registry echo (endpointTask (.receive buffer)) {}
  | countDatagram (arrival : Connection.Arrival) (length : Nat) : Roomy config arrival.buffer →
      Handles config registry echo (connectionTask (.countDatagram arrival length))
        (handling arrival)
  | countBytes (arrival : Connection.Arrival) (length : Nat) : Roomy config arrival.buffer →
      Handles config registry echo (connectionTask (.countBytes arrival length)) (handling arrival)
  | identify (arrival : Connection.Arrival) : Roomy config arrival.buffer →
      Handles config registry echo (connectionTask (.identify arrival)) (handling arrival)
  | countUnidentified (buffer : Buffer) : Roomy config buffer →
      Handles config registry echo (connectionTask (.countUnidentified buffer)) {}
  | route (arrival : Connection.Arrival) (identifier : ConnectionId) : Roomy config arrival.buffer →
      ConnectionId.ofPacket? arrival.datagram config.localIdLength.toNat = some identifier →
        Handles config registry echo (connectionTask (.route arrival identifier)) (handling arrival)
  | consider (arrival : Connection.Arrival) (identifier : ConnectionId) :
      Roomy config arrival.buffer →
        ConnectionId.ofPacket? arrival.datagram config.localIdLength.toNat = some identifier →
          identifier ∉ registry.identifiers →
            Handles config registry echo (.task (.creating arrival identifier .consider))
              (handling arrival)
  | countDeclined (buffer : Buffer) : Roomy config buffer →
      Handles config registry echo (connectionTask (.countDeclined buffer)) {}
  | occupy (arrival : Connection.Arrival) (identifier : ConnectionId) :
      Roomy config arrival.buffer → identifier ∉ registry.identifiers →
        echo.active.toNat < echo.limit.toNat →
          Handles config registry echo (.task (.creating arrival identifier .occupy))
            { sending arrival with known := [identifier] }
  | make (arrival : Connection.Arrival) (identifier : ConnectionId) : Roomy config arrival.buffer →
      identifier ∉ registry.identifiers →
        Handles config registry echo (.task (.creating arrival identifier .make))
          (admitting identifier)
  | assign (number : Nat) (identifier : ConnectionId) (buffer : Buffer) : Roomy config buffer →
      identifier ∉ registry.identifiers → Lives echo number →
        Handles config registry echo (.task (.assigning number identifier buffer))
          (admitting identifier)
  | vet (number : Nat) (identifier : ConnectionId) (buffer : Buffer) : Roomy config buffer →
      identifier ∉ registry.identifiers → Lives echo number →
        Handles config registry echo (connectionTask (.vet number identifier buffer))
          (admitting identifier)
  | register (number : Nat) (identifier : ConnectionId) (buffer : Buffer) : Roomy config buffer →
      identifier ∉ registry.identifiers → Lives echo number →
        Handles config registry echo (connectionTask (.register number identifier buffer))
          (admitting identifier)
  | confirm (identifier : ConnectionId) (buffer : Buffer) : Roomy config buffer →
      Handles config registry echo (connectionTask (.confirm identifier buffer)) {}
  | countCreated (buffer : Buffer) : Roomy config buffer →
      Handles config registry echo (connectionTask (.countCreated buffer)) {}
  | consult (number : Nat) (arrival : Connection.Arrival) (identifier : ConnectionId) :
      Roomy config arrival.buffer → Lives echo number →
        Handles config registry echo (.task (.processing number arrival identifier .consult))
          (sending arrival)
  | count (number : Nat) (arrival : Connection.Arrival) (identifier : ConnectionId) :
      Roomy config arrival.buffer →
        Handles config registry echo (.task (.processing number arrival identifier .count)) {}
  | takeBack (buffer : Buffer) :
      Handles config registry echo (serverTask (.takeBack buffer .empty)) {}
  | interest : Handles config registry echo (endpointTask .interest) {}

/-- What a server that works and is open keeps, with a number of places that are not registered. -/
structure Running (config : Config) (limit : UInt64) (state : EchoServer) (places : Nat) :
    Prop where
  settings : state.1.connection.config = config
  bound : state.2.limit = limit
  alive : state.1.connection.closed = false
  input : state.1.udp.inputOpen = true
  output : state.1.udp.outputOpen = true
  sends : state.1.socket.Sends
  receives : ∀ answer ∈ state.1.socket.receiveAnswers, answer = none
  sessions : ∀ entry ∈ state.1.connection.registry.entries, Lives state.2 entry.2
  active : state.2.active.toNat = state.1.connection.registry.identifiers.length + places
  short : ∀ parcel ∈ state.1.socket.inbox, parcel.2.length ≤ config.readBufferSize.toNat

/-- What the reference comes to when all is done that is still to be done. -/
def prospect (config : Config) (limit : UInt64) (state : EchoServer) (duty : Duty)
    (waiting : List Parcel) : Reference :=
  (duty.datagrams ++ state.1.socket.inbox).foldl
    (Reference.answer config.localIdLength.toNat limit.toNat)
    { known := state.1.connection.registry.identifiers ++ duty.known
      output := state.1.socket.sent ++ waiting ++ duty.output }

/-- How the read loop goes on: with a frame, not at all, or after something that it submits. -/
inductive Continues (config : Config) (state : EchoServer) :
    List EchoFrame → Duty → List Parcel → Prop where
  | on {frame : EchoFrame} {duty : Duty} :
      Handles config state.1.connection.registry state.2 frame duty →
        Continues config state [frame] duty []
  | off : Continues config state [] {} []
  | send {frame : EchoFrame} {duty : Duty} (entry : WriteEntry Unit) :
      Handles config state.1.connection.registry state.2 frame duty →
        Continues config state [connectionTask (.flusher (.count entry)), frame] duty [entry.wire]

/-- A step of the read loop: what was still to be done is still to be done or was submitted. -/
structure Handled (config : Config) (limit : UInt64) (state : EchoServer) (duty : Duty)
    (next : EchoServer) (put : List EchoFrame) (later : Duty) (submitted : List Parcel) : Prop where
  continues : Continues config next put later submitted
  running : Running config limit next later.places
  flusher : next.1.connection.flusher = state.1.connection.flusher
  parked : next.1.udp.parked = state.1.udp.parked
  sent : next.1.socket.sent = state.1.socket.sent
  prospect (waiting : List Parcel) :
    prospect config limit next later (waiting ++ submitted) =
      prospect config limit state duty waiting

/-- What happens to a server apart from its read loop: datagrams are sent, and others arrive. -/
structure Meanwhile (state : EchoServer) (sent arrived : List Parcel) (next : EchoServer) :
    Prop where
  registry : next.1.connection.registry = state.1.connection.registry := by rfl
  config : next.1.connection.config = state.1.connection.config := by rfl
  closed : next.1.connection.closed = state.1.connection.closed := by rfl
  inputOpen : next.1.udp.inputOpen = state.1.udp.inputOpen := by rfl
  outputOpen : next.1.udp.outputOpen = state.1.udp.outputOpen := by rfl
  limit : next.2.limit = state.2.limit := by rfl
  active : next.2.active = state.2.active := by rfl
  sessions : next.2.sessions = state.2.sessions := by rfl
  sent : next.1.socket.sent = state.1.socket.sent ++ sent
  inbox : next.1.socket.inbox = state.1.socket.inbox ++ arrived
  sends : next.1.socket.Sends
  receives : ∀ answer ∈ next.1.socket.receiveAnswers, answer = none

/-- What matters for handling datagrams is as it was. -/
structure Quiet (state next : EchoServer) : Prop where
  registry : next.1.connection.registry = state.1.connection.registry := by rfl
  config : next.1.connection.config = state.1.connection.config := by rfl
  flusher : next.1.connection.flusher = state.1.connection.flusher := by rfl
  closed : next.1.connection.closed = state.1.connection.closed := by rfl
  inputOpen : next.1.udp.inputOpen = state.1.udp.inputOpen := by rfl
  outputOpen : next.1.udp.outputOpen = state.1.udp.outputOpen := by rfl
  parked : next.1.udp.parked = state.1.udp.parked := by rfl
  socket : next.1.socket = state.1.socket := by rfl
  limit : next.2.limit = state.2.limit := by rfl
  active : next.2.active = state.2.active := by rfl
  sessions : next.2.sessions = state.2.sessions := by rfl

section Step

variable {config : Config} {limit : UInt64} {state next : EchoServer} {duty later : Duty}
variable {task : EchoServerTask} {frame : EchoFrame} {sent arrived : List Parcel}

theorem Lives.same {echo other : Echo} {number : Nat} (lives : Lives echo number)
    (sessions : other.sessions = echo.sessions) : Lives other number := by
  rw [Lives, sessions]
  exact lives

theorem Meanwhile.running {places : Nat} (meanwhile : Meanwhile state sent arrived next)
    (running : Running config limit state places)
    (short : ∀ parcel ∈ arrived, parcel.2.length ≤ config.readBufferSize.toNat) :
    Running config limit next places where
  settings := meanwhile.config.trans running.settings
  bound := meanwhile.limit.trans running.bound
  alive := meanwhile.closed.trans running.alive
  input := meanwhile.inputOpen.trans running.input
  output := meanwhile.outputOpen.trans running.output
  sends := meanwhile.sends
  receives := meanwhile.receives
  sessions entry member :=
    (running.sessions entry (meanwhile.registry ▸ member)).same meanwhile.sessions
  active := by
    rw [meanwhile.registry, meanwhile.active]
    exact running.active
  short parcel member := by
    rw [meanwhile.inbox] at member
    exact (List.mem_append.1 member).elim (running.short parcel) (short parcel)

theorem Meanwhile.prospect (meanwhile : Meanwhile state sent arrived next) (duty : Duty)
    (left : List Parcel) :
    prospect config limit next duty left =
      arrived.foldl (Reference.answer config.localIdLength.toNat limit.toNat)
        (prospect config limit state duty (sent ++ left)) := by
  rw [Echo.prospect, Echo.prospect, meanwhile.registry, meanwhile.sent, meanwhile.inbox,
    ← List.foldl_append, List.append_assoc state.1.socket.sent, List.append_assoc duty.datagrams]

theorem Quiet.refl (state : EchoServer) : Quiet state state := {}

theorem Quiet.meanwhile {places : Nat} (quiet : Quiet state next)
    (running : Running config limit state places) : Meanwhile state [] [] next where
  registry := quiet.registry
  config := quiet.config
  closed := quiet.closed
  inputOpen := quiet.inputOpen
  outputOpen := quiet.outputOpen
  limit := quiet.limit
  active := quiet.active
  sessions := quiet.sessions
  sent := by rw [quiet.socket, List.append_nil]
  inbox := by rw [quiet.socket, List.append_nil]
  sends := quiet.socket ▸ running.sends
  receives := quiet.socket ▸ running.receives

theorem Quiet.running {places : Nat} (quiet : Quiet state next)
    (running : Running config limit state places) : Running config limit next places :=
  (quiet.meanwhile running).running running fun _ member => nomatch member

theorem Handled.turn (quiet : Quiet state next) (running : Running config limit state duty.places)
    (handles : Handles config next.1.connection.registry next.2 frame later)
    (places : later.places = duty.places)
    (same : ∀ waiting,
      Echo.prospect config limit state later waiting =
        Echo.prospect config limit state duty waiting) :
    Handled config limit state duty next [frame] later [] where
  continues := .on handles
  running := quiet.running (places ▸ running)
  flusher := quiet.flusher
  parked := quiet.parked
  sent := congrArg Socket.sent quiet.socket
  prospect waiting := by
    rw [List.append_nil, (quiet.meanwhile running).prospect]
    exact same waiting

theorem Handled.pass (quiet : Quiet state next) (running : Running config limit state duty.places)
    (handles : Handles config next.1.connection.registry next.2 frame duty) :
    Handled config limit state duty next [frame] duty [] :=
  .turn quiet running handles rfl fun _ => rfl

abbrev Completes (config : Config) (limit : UInt64) (state : EchoServer) (duty : Duty)
    (task : EchoServerTask) : Prop :=
  ∃ later submitted, Handled config limit state duty (echoServer.step state task).1
    (echoServer.step state task).2 later submitted

theorem completes_connection {task : Connection.Task Unit Nat} {connection : Connection Unit Nat}
    {frames : List (Connection.ConnectionFrame Unit Nat)}
    (stepped : Connection.step state.1.connection task = (connection, frames))
    (handled : ∃ later submitted, Handled config limit state duty (withConnection state connection)
      (frames.map hostConnection) later submitted) :
    Completes config limit state duty (.inner (.link (.connection task))) := by
  have shape : echoServer.step state (.inner (.link (.connection task))) =
      (withConnection state (Connection.step state.1.connection task).1,
        (((Connection.step state.1.connection task).2.map Link.liftConnection).map
          Server.liftLink).map liftHost) := rfl
  rw [Completes, shape, stepped, List.map_map, List.map_map]
  exact handled

theorem completes_decision {task : Connection.Task Unit Nat}
    {next : Connection.ConnectionFrame Unit Nat}
    (stepped : Connection.step state.1.connection task = (state.1.connection, [next]))
    (later : Duty) (places : later.places = duty.places)
    (running : Running config limit state duty.places)
    (handles : Handles config state.1.connection.registry state.2 (hostConnection next) later)
    (same : ∀ waiting,
      prospect config limit state later waiting = prospect config limit state duty waiting) :
    Completes config limit state duty (.inner (.link (.connection task))) :=
  completes_connection stepped ⟨later, [], .turn (.refl state) running handles places same⟩

theorem completes_quietly {task : Connection.Task Unit Nat} {connection : Connection Unit Nat}
    {next : Connection.ConnectionFrame Unit Nat}
    (stepped : Connection.step state.1.connection task = (connection, [next]))
    (quiet : Quiet state (withConnection state connection))
    (running : Running config limit state duty.places)
    (handles : Handles config connection.registry state.2 (hostConnection next) duty) :
    Completes config limit state duty (.inner (.link (.connection task))) :=
  completes_connection stepped ⟨duty, [], .pass quiet running handles⟩

/-! ## Receiving a datagram -/

theorem completes_fill {buffer : Buffer} (running : Running config limit state 0)
    (empty : buffer.contents = []) (roomy : Roomy config buffer) :
    Completes config limit state {} (.inner (.link (.endpoint (.fill buffer)))) := by
  have input : state.1.link.udp.inputOpen = true := running.input
  have shape : echoServer.step state (.inner (.link (.endpoint (.fill buffer)))) =
      (state, [endpointTask (.receive buffer)]) := by
    simp only [echoServer, host, Server.component, Server.step, Link.step, Link.endpointStep, input,
      if_true]
    rfl
  rw [Completes, shape]
  exact ⟨_, _, .pass (.refl state) running (.receive buffer empty roomy)⟩

def filled (buffer : Buffer) (datagram : Bytes) : Buffer :=
  (buffer.fillUp.overwrite datagram).truncate (min datagram.length buffer.fillUp.contents.length)

/-- The frame that follows when a datagram was found, or none. -/
def found (buffer : Buffer) : Option Parcel → EchoFrame
  | none => serverTask (.takeBack buffer.fillUp.clear .empty)
  | some (sender, datagram) =>
      let length := min datagram.length buffer.fillUp.contents.length
      connectionTask
        (.countDatagram
          ⟨filled buffer datagram, sender, (filled buffer datagram).contents.take length⟩ length)

def received (socket : Socket) : Socket :=
  { socket with inbox := socket.inbox.tail, receiveAnswers := socket.receiveAnswers.tail }

theorem step_receive {buffer : Buffer}
    (receives : ∀ answer ∈ state.1.socket.receiveAnswers, answer = none) :
    echoServer.step state (.inner (.link (.endpoint (.receive buffer)))) =
      (withUdp state { state.1.link.udp with socket := received state.1.socket },
        [found buffer state.1.socket.inbox.head?]) := by
  have works : state.1.link.udp.socket.receiveAnswers.head?.join = none := by
    cases laid : state.1.link.udp.socket.receiveAnswers with
    | nil => rfl
    | cons answer others => exact receives answer (laid ▸ List.mem_cons_self)
  cases waiting : state.1.link.udp.socket.inbox <;>
  · simp only [echoServer, host, Server.component, Server.step, Link.step, Link.endpointStep,
      Udp.receive, Socket.receive, works, waiting, Server.socket, received]
    rfl

theorem completes_receive {buffer : Buffer} (running : Running config limit state 0)
    (empty : buffer.contents = []) (roomy : Roomy config buffer) :
    Completes config limit state {} (.inner (.link (.endpoint (.receive buffer)))) := by
  rw [Completes, step_receive running.receives]
  have after (later : Duty) (places : later.places = 0) : Running config limit
      (withUdp state { state.1.link.udp with socket := received state.1.socket }) later.places :=
    { running with
      receives := fun answer member => running.receives answer (List.mem_of_mem_tail member)
      active := places ▸ running.active
      short := fun parcel member => running.short parcel (List.mem_of_mem_tail member) }
  cases waits : state.1.socket.inbox with
  | nil =>
      refine ⟨{}, [], .on (.takeBack _), after {} rfl, rfl, rfl, rfl, fun waiting => ?_⟩
      rw [List.append_nil]
      have same : state.1.socket.inbox.tail = state.1.socket.inbox := by rw [waits]; rfl
      exact congrArg (List.foldl _ _) same
  | cons parcel others =>
      obtain ⟨sender, datagram⟩ := parcel
      have fits : datagram.length ≤ buffer.capacity :=
        (running.short (sender, datagram) (waits ▸ List.mem_cons_self)).trans roomy
      have whole : (filled buffer datagram).contents.take
          (min datagram.length buffer.fillUp.contents.length) = datagram := take_receive empty fits
      have same : (sender, datagram) :: state.1.socket.inbox.tail = state.1.socket.inbox := by
        rw [waits]; rfl
      refine ⟨handling ⟨filled buffer datagram, sender, datagram⟩, [], .on ?_, after _ rfl, rfl,
        rfl, rfl, fun waiting => ?_⟩
      · simp only [List.head?_cons, found, whole]
        exact .countDatagram _ _ roomy
      · rw [List.append_nil]
        exact congrArg (List.foldl _ _) same

/-! ## Finding the session of a datagram -/

/-- What the reference makes of the datagram in hand is what is still to be done for it. -/
theorem prospect_of_answer {arrival : Connection.Arrival} (undone : later.datagrams = [])
    (answered : ∀ output, Reference.answer config.localIdLength.toNat limit.toNat
      { known := state.1.connection.registry.identifiers, output := output }
      (arrival.remote, arrival.datagram) =
        { known := state.1.connection.registry.identifiers ++ later.known
          output := output ++ later.output })
    (waiting : List Parcel) :
    prospect config limit state later waiting =
      prospect config limit state (handling arrival) waiting := by
  simp only [prospect, handling, undone, List.nil_append, List.cons_append, List.foldl_cons,
    List.append_nil, answered]

theorem completes_identify {arrival : Connection.Arrival} (running : Running config limit state 0)
    (roomy : Roomy config arrival.buffer) :
    Completes config limit state (handling arrival)
      (.inner (.link (.connection (.identify arrival)))) := by
  obtain rfl := running.settings
  cases named : ConnectionId.ofPacket? arrival.datagram
      state.1.connection.config.localIdLength.toNat with
  | none =>
      refine completes_decision (by simp only [Connection.step, named]; rfl) {} rfl running
        (.countUnidentified arrival.buffer roomy) (prospect_of_answer rfl fun output => ?_)
      rw [Reference.answer_of_none named, List.append_nil, List.append_nil]
  | some identifier =>
      exact completes_decision (by simp only [Connection.step, named]; rfl) _ rfl running
        (.route arrival identifier roomy named) fun _ => rfl

theorem completes_route {arrival : Connection.Arrival} {identifier : ConnectionId}
    (running : Running config limit state 0) (roomy : Roomy config arrival.buffer)
    (named : ConnectionId.ofPacket? arrival.datagram config.localIdLength.toNat = some identifier) :
    Completes config limit state (handling arrival)
      (.inner (.link (.connection (.route arrival identifier)))) := by
  cases found : state.1.connection.registry.lookup? identifier with
  | none =>
      have unknown := Registry.lookup?_eq_none_iff.1 found
      exact completes_decision (by simp only [Connection.step, found]; rfl) _ rfl running
        (.consider arrival identifier roomy named unknown) fun _ => rfl
  | some number =>
      have entry := Registry.lookup?_eq_some_iff.1 found
      have known : identifier ∈ state.1.connection.registry.identifiers :=
        List.mem_map_of_mem entry
      refine completes_decision (by simp only [Connection.step, found]; rfl) (sending arrival) rfl
        running (.consult number arrival identifier roomy (running.sessions _ entry))
        (prospect_of_answer rfl fun output => ?_)
      rw [Reference.answer_of_known named known]
      simp [Reference.sendBack, sending]

theorem step_consider (state : EchoServer) (arrival : Connection.Arrival)
    (identifier : ConnectionId) :
    isInitial arrival.datagram = true ∧ state.2.active.toNat < state.2.limit.toNat ∧
      echoServer.step state (.creating arrival identifier .consider) =
        (state, [.task (.creating arrival identifier .occupy)]) ∨
    ¬ (isInitial arrival.datagram = true ∧ state.2.active.toNat < state.2.limit.toNat) ∧
      ∃ rejected, echoServer.step state (.creating arrival identifier .consider) =
        ((state.1, { state.2 with rejected := rejected }),
          [connectionTask (.countDeclined arrival.buffer)]) := by
  cases first : isInitial arrival.datagram with
  | false =>
      refine .inr ⟨fun admitted => Bool.noConfusion admitted.1, state.2.rejected, ?_⟩
      simp only [echoServer, host, createStep, first]
      rfl
  | true =>
      by_cases full : state.2.limit ≤ state.2.active
      · refine .inr ⟨fun admitted => ?_, state.2.rejected + 1, ?_⟩
        · exact absurd (UInt64.le_iff_toNat_le.1 full) (Nat.not_le.2 admitted.2)
        · simp only [echoServer, host, createStep, first, full, if_true]
          rfl
      · refine .inl ⟨rfl, Nat.not_le.1 fun most => full (UInt64.le_iff_toNat_le.2 most), ?_⟩
        simp only [echoServer, host, createStep, first, full, if_true, if_false]
        rfl

theorem completes_consider {arrival : Connection.Arrival} {identifier : ConnectionId}
    (running : Running config limit state 0) (roomy : Roomy config arrival.buffer)
    (named : ConnectionId.ofPacket? arrival.datagram config.localIdLength.toNat = some identifier)
    (unknown : identifier ∉ state.1.connection.registry.identifiers) :
    Completes config limit state (handling arrival) (.creating arrival identifier .consider) := by
  have count : state.2.active.toNat = state.1.connection.registry.identifiers.length :=
    running.active
  rcases step_consider state arrival identifier with
    ⟨first, room, shape⟩ | ⟨refused, rejected, shape⟩
  · rw [Completes, shape]
    refine ⟨{ sending arrival with known := [identifier] }, [], .turn (.refl state) running
      (.occupy arrival identifier roomy unknown room) rfl (prospect_of_answer rfl fun output => ?_)⟩
    rw [isInitial_eq_opens] at first
    rw [count, running.bound] at room
    exact Reference.answer_of_opening named unknown first room
  · rw [Completes, shape]
    refine ⟨{}, [], .turn {} running
      (.countDeclined arrival.buffer roomy) rfl (prospect_of_answer rfl fun output => ?_)⟩
    rw [isInitial_eq_opens, count, running.bound] at refused
    rw [List.append_nil, List.append_nil]
    exact Reference.answer_of_refused named unknown refused

/-! ## Sending a datagram back -/

def reply (arrival : Connection.Arrival) : WriteEntry Unit :=
  ⟨(), arrival.remote, [arrival.datagram]⟩

theorem wire_reply (arrival : Connection.Arrival) :
    (reply arrival).wire = (arrival.remote, arrival.datagram) := by
  simp only [reply, WriteEntry.wire, WriteEntry.datagram, List.flatten_cons, List.flatten_nil,
    List.append_nil]

theorem completes_occupy {arrival : Connection.Arrival} {identifier : ConnectionId}
    (running : Running config limit state 0) (roomy : Roomy config arrival.buffer)
    (unknown : identifier ∉ state.1.connection.registry.identifiers)
    (room : state.2.active.toNat < state.2.limit.toNat) :
    Completes config limit state { sending arrival with known := [identifier] }
      (.creating arrival identifier .occupy) := by
  -- The number of active sessions is below the limit, so it does not wrap around.
  have more : (state.2.active + 1).toNat = state.2.active.toNat + 1 := by
    have bounded := state.2.limit.toNat_lt
    rw [UInt64.toNat_add, UInt64.toNat_one]
    exact Nat.mod_eq_of_lt (by omega)
  have shape : echoServer.step state (.creating arrival identifier .occupy) =
      ((state.1, { state.2 with active := state.2.active + 1, opened := state.2.opened + 1 }),
        [connectionTask (.flusher (.count (reply arrival))),
          .task (.creating arrival identifier .make)]) := rfl
  rw [Completes, shape]
  refine ⟨admitting identifier, [(reply arrival).wire],
    .send _ (.make arrival identifier roomy unknown),
    { running with active := more.trans (congrArg (· + 1) running.active) }, rfl, rfl, rfl,
    fun waiting => ?_⟩
  simp only [prospect, admitting, sending, wire_reply, List.append_nil, List.append_assoc]

theorem completes_consult {number : Nat} {arrival : Connection.Arrival} {identifier : ConnectionId}
    (running : Running config limit state 0) (roomy : Roomy config arrival.buffer)
    (lives : Lives state.2 number) :
    Completes config limit state (sending arrival)
      (.processing number arrival identifier .consult) := by
  obtain ⟨session, there, opened⟩ := lives
  have shape : echoServer.step state (.processing number arrival identifier .consult) =
      (state, [connectionTask (.flusher (.count (reply arrival))),
        .task (.processing number arrival identifier .count)]) := by
    simp only [echoServer, host, processStep, there, Option.all_some, opened]
    rfl
  rw [Completes, shape]
  refine ⟨{}, [(reply arrival).wire], .send _ (.count number arrival identifier roomy), running,
    rfl, rfl, rfl, fun waiting => ?_⟩
  simp only [prospect, sending, wire_reply, List.append_nil, List.append_assoc]

/-! ## The sessions -/

theorem Lives.append {echo : Echo} {number : Nat} (lives : Lives echo number)
    (others : List Session) : Lives { echo with sessions := echo.sessions ++ others } number := by
  obtain ⟨session, there, opened⟩ := lives
  exact ⟨session, List.getElem?_append_left (List.getElem?_eq_some_iff.1 there).1 ▸ there, opened⟩

theorem Lives.modify {echo : Echo} {number : Nat} (lives : Lives echo number) (other : Nat)
    {change : Session → Session} (kept : ∀ session, (change session).closed = session.closed) :
    Lives (echo.modifySession other change) number := by
  obtain ⟨session, there, opened⟩ := lives
  by_cases same : other = number
  · refine ⟨change session, ?_, (kept session).trans opened⟩
    simp [modifySession, same, there]
  · refine ⟨session, ?_, opened⟩
    simp [modifySession, same, there]

theorem Running.sessions_changed {places : Nat} {echo : Echo}
    (running : Running config limit state places) (limited : echo.limit = state.2.limit)
    (counted : echo.active = state.2.active)
    (lives : ∀ number, Lives state.2 number → Lives echo number) :
    Running config limit (state.1, echo) places :=
  { running with
    bound := limited.trans running.bound
    active := (congrArg UInt64.toNat counted).trans running.active
    sessions := fun entry member => lives _ (running.sessions entry member) }

theorem completes_make {arrival : Connection.Arrival} {identifier : ConnectionId}
    (running : Running config limit state 1) (roomy : Roomy config arrival.buffer)
    (unknown : identifier ∉ state.1.connection.registry.identifiers) :
    Completes config limit state (admitting identifier) (.creating arrival identifier .make) := by
  -- The session is not registered yet, but its number is the next one and will stay its own.
  have made : Lives { state.2 with sessions := state.2.sessions ++ [{ remote := arrival.remote }] }
      state.2.sessions.length := ⟨{ remote := arrival.remote }, by simp, rfl⟩
  exact ⟨_, [], .on (.assign _ identifier arrival.buffer roomy unknown made),
    running.sessions_changed rfl rfl fun _ lives => lives.append _, rfl, rfl, rfl,
    fun waiting => by rw [List.append_nil]; rfl⟩

theorem completes_assign {number : Nat} {identifier : ConnectionId} {buffer : Buffer}
    (running : Running config limit state 1) (roomy : Roomy config buffer)
    (unknown : identifier ∉ state.1.connection.registry.identifiers)
    (lives : Lives state.2 number) :
    Completes config limit state (admitting identifier) (.assigning number identifier buffer) :=
  ⟨_, [], .on (.vet number identifier buffer roomy unknown (lives.modify number fun _ => rfl)),
    running.sessions_changed rfl rfl fun _ lives => lives.modify number fun _ => rfl, rfl, rfl, rfl,
    fun waiting => by rw [List.append_nil]; rfl⟩

theorem completes_count {number : Nat} {arrival : Connection.Arrival} {identifier : ConnectionId}
    (running : Running config limit state 0) (roomy : Roomy config arrival.buffer) :
    Completes config limit state {} (.processing number arrival identifier .count) :=
  ⟨_, [], .on (.fill arrival.buffer.clear rfl roomy),
    running.sessions_changed rfl rfl fun _ lives => lives.modify number fun _ => rfl, rfl, rfl, rfl,
    fun waiting => by rw [List.append_nil]; rfl⟩

theorem completes_register {number : Nat} {identifier : ConnectionId} {buffer : Buffer}
    (running : Running config limit state 1) (roomy : Roomy config buffer)
    (unknown : identifier ∉ state.1.connection.registry.identifiers)
    (lives : Lives state.2 number) :
    Completes config limit state (admitting identifier)
      (.inner (.link (.connection (.register number identifier buffer)))) := by
  cases inserted : state.1.connection.registry.insert? identifier number with
  | none => exact absurd (Registry.insert?_eq_none_iff.1 inserted) unknown
  | some registry =>
      have entries := Registry.entries_of_insert? inserted
      have identifiers :
          registry.identifiers = state.1.connection.registry.identifiers ++ [identifier] := by
        rw [Registry.identifiers, entries, List.map_append]
        rfl
      -- The place that was taken for the session is now counted with the registered ones.
      have counted : state.2.active.toNat = registry.identifiers.length := by
        rw [identifiers, List.length_append]
        exact running.active
      have stepped : Connection.step state.1.connection (.register number identifier buffer) =
          ({ state.1.connection with registry := registry },
            [.task (.confirm identifier buffer)]) := by
        simp only [Connection.step, inserted]
      refine completes_connection stepped ⟨{}, [], .on (.confirm identifier buffer roomy), ?_, rfl,
        rfl, rfl, fun waiting => ?_⟩
      · refine { running with active := counted, sessions := fun entry member => ?_ }
        rcases List.mem_append.1 (entries ▸ member) with old | new
        · exact running.sessions entry old
        · obtain rfl := List.mem_singleton.1 new
          exact lives
      · rw [List.append_nil]
        exact congrArg (fun known => List.foldl _ (Reference.mk known _) _)
          ((List.append_nil _).trans identifiers)

/-! ## The read loop -/

theorem Handles.step
    (handles : Handles config state.1.connection.registry state.2 (.task task) duty)
    (running : Running config limit state duty.places) :
    Completes config limit state duty task := by
  have alive := running.alive
  cases handles with
  | borrow =>
      obtain rfl := running.settings
      exact ⟨_, _, .pass (.refl state) running (.lend _)⟩
  | lend direct =>
      exact ⟨_, _, .pass {} running
        (.fill _ rfl (BufferPool.le_capacity_acquire state.1.pool _))⟩
  | fill buffer empty roomy => exact completes_fill running empty roomy
  | receive buffer empty roomy => exact completes_receive running empty roomy
  | countDatagram arrival length roomy =>
      exact completes_quietly rfl {} running (.countBytes arrival length roomy)
  | countBytes arrival length roomy =>
      exact completes_quietly rfl {} running (.identify arrival roomy)
  | identify arrival roomy => exact completes_identify running roomy
  | countUnidentified buffer roomy =>
      exact completes_quietly rfl {} running (.fill buffer.clear rfl roomy)
  | route arrival identifier roomy named => exact completes_route running roomy named
  | consider arrival identifier roomy named unknown =>
      exact completes_consider running roomy named unknown
  | countDeclined buffer roomy =>
      exact completes_quietly rfl {} running (.fill buffer.clear rfl roomy)
  | occupy arrival identifier roomy unknown room =>
      exact completes_occupy running roomy unknown room
  | make arrival identifier roomy unknown => exact completes_make running roomy unknown
  | assign number identifier buffer roomy unknown lives =>
      exact completes_assign running roomy unknown lives
  | vet number identifier buffer roomy unknown lives =>
      have stepped : Connection.step state.1.connection (.vet number identifier buffer) =
          (state.1.connection, [.task (.register number identifier buffer)]) := by
        simp only [Connection.step, alive, Bool.false_eq_true, if_false]
      exact completes_quietly stepped (.refl state) running
        (.register number identifier buffer roomy unknown lives)
  | register number identifier buffer roomy unknown lives =>
      exact completes_register running roomy unknown lives
  | confirm identifier buffer roomy =>
      have stepped : Connection.step state.1.connection (.confirm identifier buffer) =
          (state.1.connection, [.task (.countCreated buffer)]) := by
        simp only [Connection.step, alive, Bool.false_eq_true, if_false]
      exact completes_quietly stepped (.refl state) running (.countCreated buffer roomy)
  | countCreated buffer roomy =>
      exact completes_quietly rfl {} running (.fill buffer.clear rfl roomy)
  | consult number arrival identifier roomy lives => exact completes_consult running roomy lives
  | count number arrival identifier roomy => exact completes_count running roomy
  | takeBack buffer =>
      exact ⟨_, _, .pass {} running .interest⟩
  | interest =>
      have quiet : Quiet state (withUdp state state.1.udp.fillInterested) :=
        {}
      exact ⟨{}, [], .off, quiet.running running, rfl, rfl, rfl, fun waiting => by
        rw [List.append_nil]
        exact (quiet.meanwhile running).prospect {} waiting⟩

end Step

end DatagramMux.Echo
