import DatagramMux.Proofs.Echo.Handling
import DatagramMux.Proofs.Machine.Script
import DatagramMux.Proofs.Server.Binding

/-!
# An echo server does what the reference does

A server with echo sessions whose event loop runs in rounds, while datagrams arrive at any moment
and the operating system lets some of the sends wait. When everything is read and nothing is parked,
it has sent what the reference sends, and it knows the identifiers that the reference knows.
-/

namespace DatagramMux

def SocketEvent.arrivals : SocketEvent → List Parcel
  | .arrive sender datagram => [(sender, datagram)]
  | .writable | .answer _ _ _ => []

/--
An event as it happens while all goes well: datagrams are not too long, a send can at most be told
to wait, and a receive finds what there is.
-/
def SocketEvent.Fair (longest : Nat) : SocketEvent → Prop
  | .arrive _ datagram => datagram.length ≤ longest
  | .writable => True
  | .answer send receive _ =>
      (∀ answer ∈ send, answer = none ∨ answer = some .wouldBlock) ∧
        ∀ answer ∈ receive, answer = none

instance (longest : Nat) : DecidablePred (SocketEvent.Fair longest)
  | .arrive _ _ => inferInstanceAs (Decidable (_ ≤ _))
  | .writable => inferInstanceAs (Decidable True)
  | .answer _ _ _ => inferInstanceAs (Decidable (_ ∧ _))

namespace Echo

open Component
open Scenario (EchoServer EchoServerTask EchoServerRequest echoServer)

abbrev EchoMove := Move EchoServerTask EchoServerRequest (Server.Method Unit) Connection.Reply

/-- What a server has sent in a move to its own address arrives there. -/
def loopback (state next : EchoServer) : List Parcel :=
  (next.1.socket.sent.drop state.1.socket.sent.length).filter fun parcel =>
    parcel.1 = state.1.socket.address

/-- The rounds of a server, with the datagrams that have arrived so far, in order. -/
inductive Serving (first : EchoServer) : List Parcel → EchoServer → List EchoFrame → Prop where
  | start : Serving first [] first []
  | event {arrivals : List Parcel} {state : EchoServer} {stack : List EchoFrame}
      (event : SocketEvent) : Serving first arrivals state stack →
        event.Fair state.1.connection.config.readBufferSize.toNat →
          Serving first (arrivals ++ event.arrivals) (state.1.undergo event, state.2) stack
  | round {arrivals : List Parcel} {state : EchoServer} : Serving first arrivals state [] →
      Serving first arrivals state (echoServer.body .runOnce)
  | move {arrivals : List Parcel} {state next : EchoServer} {stack nextStack : List EchoFrame}
      {move : EchoMove} : Serving first arrivals state stack →
        Step echoServer state stack move next nextStack → (∀ method, move ≠ .enter method) →
          Serving first (arrivals ++ loopback state next) next nextStack

/-! ## What a server is doing -/

def endRound (result : Except MuxError Nat) : EchoFrame := serverTask (.endRound result false)

/-- What a server is doing in a round, with what is to be done and what waits to be sent. -/
inductive Serves (config : Config) (state : EchoServer) :
    List EchoFrame → Duty → List Parcel → Prop where
  | idle {waiting : List Parcel} :
      Link.Rest state.1.connection.flusher state.1.udp.parked waiting →
        Serves config state [] {} waiting
  | poll {waiting : List Parcel} :
      Link.Rest state.1.connection.flusher state.1.udp.parked waiting →
        Serves config state [serverTask (.poll false)] {} waiting
  | write {waiting : List Parcel} (frames : List (Link.LinkFrame Unit Nat)) (readable : Bool) :
      Link.Flow state.1.connection.flusher state.1.udp.parked frames waiting →
        Serves config state (frames.map hostLink ++ [serverTask (.read readable false)]) {} waiting
  | hold {waiting : List Parcel} (result : Except MuxError Nat) :
      Link.Rest state.1.connection.flusher state.1.udp.parked waiting →
        Serves config state [connectionTask (.hold .fillable), endRound result] {} waiting
  | loop {waiting : List Parcel} {frame : EchoFrame} {duty : Duty}
      (frames : List (Link.LinkFrame Unit Nat)) (result : Except MuxError Nat) :
      Link.Flow state.1.connection.flusher state.1.udp.parked frames waiting →
        Handles config state.1.connection.registry state.2 frame duty →
          Serves config state
            (frames.map hostLink ++ [frame, connectionTask .letGo, endRound result]) duty waiting
  | leave {waiting : List Parcel} (result : Except MuxError Nat) :
      Link.Rest state.1.connection.flusher state.1.udp.parked waiting →
        Serves config state [connectionTask .letGo, endRound result] {} waiting
  | finish {waiting : List Parcel} (result : Except MuxError Nat) :
      Link.Rest state.1.connection.flusher state.1.udp.parked waiting →
        Serves config state [endRound result] {} waiting

/-- All that has arrived was answered, or it is still to be, as the reference does it. -/
structure Served (config : Config) (limit : UInt64) (arrivals : List Parcel) (state : EchoServer)
    (stack : List EchoFrame) (duty : Duty) (waiting : List Parcel) : Prop where
  serves : Serves config state stack duty waiting
  running : Running config limit state duty.places
  answered : arrivals.foldl (Reference.answer config.localIdLength.toNat limit.toNat) {} =
    prospect config limit state duty waiting
  short : ∀ parcel ∈ arrivals, parcel.2.length ≤ config.readBufferSize.toNat

section Step

variable {config : Config} {limit : UInt64} {state next : EchoServer} {duty : Duty}
variable {stack nextStack : List EchoFrame} {move : EchoMove}
variable {arrivals arrived sent waiting left : List Parcel}

theorem Served.meanwhile (served : Served config limit arrivals state stack duty (sent ++ left))
    (meanwhile : Meanwhile state sent arrived next)
    (serves : Serves config next nextStack duty left)
    (short : ∀ parcel ∈ arrived, parcel.2.length ≤ config.readBufferSize.toNat) :
    Served config limit (arrivals ++ arrived) next nextStack duty left where
  serves := serves
  running := meanwhile.running served.running short
  answered := by rw [List.foldl_append, served.answered, meanwhile.prospect]
  short parcel member := (List.mem_append.1 member).elim (served.short parcel) (short parcel)

theorem Served.short_waiting (served : Served config limit arrivals state stack duty waiting) :
    ∀ parcel ∈ waiting, parcel.2.length ≤ config.readBufferSize.toNat := by
  intro parcel member
  -- What waits is part of what the reference sends, and that is part of what has arrived.
  obtain ⟨answers, arrived, output⟩ :=
    Reference.output_answers config.localIdLength.toNat limit.toNat {} arrivals
  obtain ⟨others, -, planned⟩ := Reference.output_answers config.localIdLength.toNat limit.toNat
    { known := state.1.connection.registry.identifiers ++ duty.known
      output := state.1.socket.sent ++ waiting ++ duty.output }
    (duty.datagrams ++ state.1.socket.inbox)
  have same : answers = state.1.socket.sent ++ waiting ++ duty.output ++ others :=
    output.symm.trans ((congrArg Reference.output served.answered).trans planned)
  have answer : parcel ∈ answers := by
    rw [same]
    simp [member]
  exact served.short parcel (arrived.mem answer)

abbrev Continued (config : Config) (limit : UInt64) (arrivals : List Parcel)
    (state next : EchoServer) (stack : List EchoFrame) : Prop :=
  ∃ duty waiting, Served config limit (arrivals ++ loopback state next) next stack duty waiting

theorem loopback_of_same (same : next.1.socket.sent = state.1.socket.sent) :
    loopback state next = [] := by
  rw [loopback, same, List.drop_length, List.filter_nil]

theorem Served.aside (served : Served config limit arrivals state stack duty waiting)
    (meanwhile : Meanwhile state [] [] next) (serves : Serves config next nextStack duty waiting) :
    Continued config limit arrivals state next nextStack := by
  have nothing : loopback state next = [] :=
    loopback_of_same (meanwhile.sent.trans (List.append_nil _))
  have before : Served config limit arrivals state stack duty ([] ++ waiting) := served
  rw [Continued, nothing]
  exact ⟨duty, waiting, before.meanwhile meanwhile serves fun _ member => nomatch member⟩

theorem Served.quietly (served : Served config limit arrivals state stack duty waiting)
    (quiet : Quiet state next) (serves : Serves config next nextStack duty waiting) :
    Continued config limit arrivals state next nextStack :=
  served.aside (quiet.meanwhile served.running) serves

/-! ## The writes -/

/-- Whether the next move of a frame is a matter of the connection and its endpoint alone. -/
def OfLink : Link.LinkFrame Unit Nat → Prop
  | .task _ | .call (.flusher _) | .inside (.flusher _) => True
  | _ => False

theorem ofLink_of_flow {flusher : Flusher Unit} {parked : Option (Udp.Outgoing Nat)}
    {frame : Link.LinkFrame Unit Nat} {below : List (Link.LinkFrame Unit Nat)}
    (flow : Link.Flow flusher parked (frame :: below) waiting) : OfLink frame := by
  cases flow with
  | report reports => cases reports <;> trivial
  | _ => trivial

/-- A move of a server at a frame of its link is a move of the link. -/
theorem exists_link_step {frame : Link.LinkFrame Unit Nat} {below : List (Link.LinkFrame Unit Nat)}
    {others : List EchoFrame} (ofLink : OfLink frame)
    (step : Step echoServer state ((frame :: below).map hostLink ++ others) move next nextStack)
    (own : ∀ method, move ≠ .enter method) :
    ∃ linkMove link frames,
      Step (Link.component Unit Nat) state.1.link (frame :: below) linkMove link frames ∧
        (∀ method, linkMove ≠ .enter method) ∧ next = withLink state link ∧
          nextStack = frames.map hostLink ++ others := by
  have lift (frames : List (Link.LinkFrame Unit Nat)) :
      ((frames.map Server.liftLink).map liftHost) ++ (below.map hostLink ++ others) =
        (frames ++ below).map hostLink ++ others := by
    rw [List.map_map, List.map_append, List.append_assoc]
    rfl
  cases frame with
  | task task =>
      cases step with
      | work _ _ free => exact ⟨.work task, _, _, .work _ _ _ free, nofun, rfl, lift _⟩
      | enter => exact absurd rfl (own _)
  | call request =>
      cases request with
      | flusher request =>
          cases step with
          | «begin» => exact ⟨.begin (.flusher request), _, _, .begin _ _ _, nofun, rfl, rfl⟩
          | enter => exact absurd rfl (own _)
      | _ => exact ofLink.elim
  | inside request =>
      cases request with
      | flusher request =>
          cases step with
          | finish =>
              exact ⟨.finish (.flusher request) (), _, _, .finish _ _ _ _, nofun, rfl, lift _⟩
          | enter => exact absurd rfl (own _)
      | _ => exact ofLink.elim

theorem loopback_of_sent {link : Link Unit Nat} (passed : Link.Sent state.1.link sent link) :
    loopback state (withLink state link) =
      sent.filter fun parcel => parcel.1 = state.1.socket.address := by
  have more : (withLink state link).1.socket.sent = state.1.socket.sent ++ sent :=
    passed.socket.sent
  rw [loopback, more, List.drop_left]

/-- While the writes flow, what is sent to the server itself arrives, and all else is as it was. -/
theorem meanwhile_of_sent {link : Link Unit Nat} (running : Running config limit state duty.places)
    (passed : Link.Sent state.1.link sent link) :
    Meanwhile state sent (loopback state (withLink state link)) (withLink state link) := by
  have connection : (withLink state link).1.connection =
      { state.1.link.connection with flusher := link.connection.flusher } := passed.connection
  have accepted := passed.socket
  refine ⟨?_, ?_, ?_, passed.input, passed.output, rfl, rfl, rfl, accepted.sent, ?_,
    accepted.sends, ?_⟩
  · rw [connection]
    rfl
  · rw [connection]
    rfl
  · rw [connection]
    rfl
  · rw [loopback_of_sent passed]
    exact accepted.inbox
  · intro answer member
    exact running.receives answer (accepted.receives ▸ member)

theorem Served.flow {frame : Link.LinkFrame Unit Nat} {below : List (Link.LinkFrame Unit Nat)}
    {others : List EchoFrame}
    (served :
      Served config limit arrivals state ((frame :: below).map hostLink ++ others) duty waiting)
    (flow : Link.Flow state.1.connection.flusher state.1.udp.parked (frame :: below) waiting)
    (serves : ∀ {sent left frames link}, Meanwhile state sent (loopback state (withLink state link))
      (withLink state link) → Link.Flow link.connection.flusher link.udp.parked frames left →
        Serves config (withLink state link) (frames.map hostLink ++ others) duty left)
    (step : Step echoServer state ((frame :: below).map hostLink ++ others) move next nextStack)
    (own : ∀ method, move ≠ .enter method) :
    Continued config limit arrivals state next nextStack := by
  obtain ⟨linkMove, link, frames, linkStep, linkOwn, rfl, rfl⟩ :=
    exists_link_step (ofLink_of_flow flow) step own
  obtain ⟨sent, left, onward, passed, rfl⟩ :=
    flow.step served.running.output served.running.sends linkStep linkOwn
  have meanwhile := meanwhile_of_sent served.running passed
  refine ⟨duty, left, served.meanwhile meanwhile (serves meanwhile onward) fun parcel member => ?_⟩
  rw [loopback_of_sent passed] at member
  exact served.short_waiting parcel (List.mem_append_left _ (List.mem_of_mem_filter member))

/-! ## The read loop -/

theorem Served.handle {task : EchoServerTask} {result : Except MuxError Nat}
    (served : Served config limit arrivals state
      [.task task, connectionTask .letGo, endRound result] duty waiting)
    (rest : Link.Rest state.1.connection.flusher state.1.udp.parked waiting)
    (handles : Handles config state.1.connection.registry state.2 (.task task) duty) :
    Continued config limit arrivals state (echoServer.step state task).1
      ((echoServer.step state task).2 ++ [connectionTask .letGo, endRound result]) := by
  obtain ⟨later, submitted, handled⟩ := handles.step served.running
  have nothing : loopback state (echoServer.step state task).1 = [] := loopback_of_same handled.sent
  rw [Continued, nothing, List.append_nil]
  generalize (echoServer.step state task).1 = next at handled
  generalize (echoServer.step state task).2 = put at handled
  have restAfter : Link.Rest next.1.connection.flusher next.1.udp.parked waiting := by
    rw [handled.flusher, handled.parked]
    exact rest
  refine ⟨later, waiting ++ submitted, ?_, handled.running,
    served.answered.trans (handled.prospect waiting).symm, served.short⟩
  have continues := handled.continues
  cases continues with
  | on handles =>
      rw [List.append_nil]
      exact .loop [] result (.rest restAfter) handles
  | off =>
      rw [List.append_nil]
      exact .leave result restAfter
  | send entry handles =>
      exact .loop [Link.flusherTask (.count entry)] result (.count entry restAfter) handles

theorem Handles.exists_task {registry : Registry Nat} {echo : Echo} {frame : EchoFrame}
    (handles : Handles config registry echo frame duty) : ∃ task, frame = .task task := by
  cases handles <;> exact ⟨_, rfl⟩

/-! ## The event loop -/

theorem step_poll (state : EchoServer) :
    ∃ put,
      echoServer.step state (.inner (.poll false)) =
        ((state.1.setSocket state.1.socket.poll.1, state.2), put) ∧
      ((∃ result, put = [endRound result]) ∨
        ∃ readable, put =
          [hostLink (.task (.udp .lockForRetry)), serverTask (.read readable false)]) := by
  have stepped : echoServer.step state (.inner (.poll false)) =
      (((Server.step state.1 (.poll false)).1, state.2),
        (Server.step state.1 (.poll false)).2.map liftHost) := rfl
  rw [stepped]
  simp only [Server.step]
  split
  · next polled => exact ⟨[endRound (.ok 0)], by rw [polled]; rfl, .inl ⟨_, rfl⟩⟩
  · next kind _ polled =>
    exact ⟨[endRound (.error (.io (.system kind)))], by rw [polled]; rfl, .inl ⟨_, rfl⟩⟩
  · next polled => exact ⟨[endRound (.ok 0)], by rw [polled]; rfl, .inl ⟨_, rfl⟩⟩
  · next readable polled => exact ⟨_, by rw [polled]; rfl, .inr ⟨readable, rfl⟩⟩

theorem Served.poll
    (served : Served config limit arrivals state [serverTask (.poll false)] {} waiting)
    (rest : Link.Rest state.1.connection.flusher state.1.udp.parked waiting) :
    Continued config limit arrivals state (echoServer.step state (.inner (.poll false))).1
      (echoServer.step state (.inner (.poll false))).2 := by
  obtain ⟨put, stepped, ending⟩ := step_poll state
  obtain ⟨readable, writable, answers, polled⟩ := state.1.socket.eq_of_poll
  rw [stepped, polled]
  refine served.aside {
    sent := (List.append_nil _).symm, inbox := (List.append_nil _).symm
    sends := served.running.sends, receives := served.running.receives } ?_
  rcases ending with ⟨result, rfl⟩ | ⟨readable, rfl⟩
  · exact .finish result rest
  · exact .write [.task (.udp .lockForRetry)] readable (.lockForRetry rest)

theorem step_read (state : EchoServer) (readable : Bool) :
    ∃ udp put,
      echoServer.step state (.inner (.read readable false)) = (withUdp state udp, put) ∧
      Quiet state (withUdp state udp) ∧
      (put = [endRound (.ok 1)] ∨
        put = [connectionTask (.hold .fillable), endRound (.ok 1)]) := by
  cases readable with
  | false => exact ⟨state.1.udp, _, rfl, {}, .inl rfl⟩
  | true =>
      cases interested : state.1.udp.interest with
      | false =>
          refine ⟨state.1.udp.takeInterest.1, _, rfl, {}, .inl ?_⟩
          simp only [interested]
          rfl
      | true =>
          refine ⟨state.1.udp.takeInterest.1, _, rfl, {}, .inr ?_⟩
          simp only [interested]
          rfl

theorem Served.read {readable : Bool}
    (served : Served config limit arrivals state [serverTask (.read readable false)] {} waiting)
    (rest : Link.Rest state.1.connection.flusher state.1.udp.parked waiting) :
    Continued config limit arrivals state (echoServer.step state (.inner (.read readable false))).1
      (echoServer.step state (.inner (.read readable false))).2 := by
  obtain ⟨udp, put, stepped, quiet, ending⟩ := step_read state readable
  rw [stepped]
  have restAfter : Link.Rest state.1.connection.flusher udp.parked waiting := by
    rw [show udp.parked = state.1.udp.parked from quiet.parked]
    exact rest
  refine served.quietly quiet ?_
  rcases ending with rfl | rfl
  · exact .finish (.ok 1) restAfter
  · exact .hold (.ok 1) restAfter

/-- What a server does in a move of its own is what the reference does. -/
theorem Served.step (served : Served config limit arrivals state stack duty waiting)
    (step : Step echoServer state stack move next nextStack)
    (own : ∀ method, move ≠ .enter method) :
    Continued config limit arrivals state next nextStack := by
  have serves := served.serves
  cases serves with
  | idle rest =>
      cases step with
      | enter => exact absurd rfl (own _)
  | poll rest =>
      obtain ⟨rfl, rfl⟩ := step.eq_of_task own
      rw [List.append_nil]
      exact served.poll rest
  | write frames readable flow =>
      cases frames with
      | nil =>
          cases flow with
          | rest rest =>
              obtain ⟨rfl, rfl⟩ := step.eq_of_task own
              rw [List.append_nil]
              exact served.read rest
      | cons frame below =>
          exact served.flow flow (fun _ onward => .write _ readable onward) step own
  | hold result rest =>
      obtain ⟨rfl, rfl⟩ := step.eq_of_task own
      exact served.quietly {} (.loop [] result (.rest rest) .borrow)
  | loop frames result flow handles =>
      cases frames with
      | nil =>
          cases flow with
          | rest rest =>
              obtain ⟨task, rfl⟩ := handles.exists_task
              obtain ⟨rfl, rfl⟩ := step.eq_of_task own
              exact served.handle rest handles
      | cons frame below =>
          refine served.flow flow (fun meanwhile onward => .loop _ result onward ?_) step own
          rw [meanwhile.registry]
          exact handles
  | leave result rest =>
      obtain ⟨rfl, rfl⟩ := step.eq_of_task own
      exact served.quietly {} (.finish result rest)
  | finish result rest =>
      obtain ⟨rfl, rfl⟩ := step.eq_of_task own
      exact served.quietly {} (.idle rest)

theorem Serves.undergo (serves : Serves config state stack duty waiting) (event : SocketEvent) :
    Serves config (state.1.undergo event, state.2) stack duty waiting := by
  cases serves with
  | idle rest => exact .idle rest
  | poll rest => exact .poll rest
  | write frames readable flow => exact .write frames readable flow
  | hold result rest => exact .hold result rest
  | loop frames result flow handles => exact .loop frames result flow handles
  | leave result rest => exact .leave result rest
  | finish result rest => exact .finish result rest

theorem Serves.rest_of_nil (serves : Serves config state [] duty waiting) :
    duty = {} ∧ Link.Rest state.1.connection.flusher state.1.udp.parked waiting := by
  generalize nil : ([] : List EchoFrame) = stack at serves
  cases serves with
  | idle rest => exact ⟨rfl, rest⟩
  | poll | hold | leave | finish => cases nil
  | write | loop => simp at nil

theorem meanwhile_of_event (running : Running config limit state duty.places) {event : SocketEvent}
    (fair : event.Fair config.readBufferSize.toNat) :
    Meanwhile state [] event.arrivals (state.1.undergo event, state.2) := by
  have sends := running.sends
  have receives := running.receives
  cases event with
  | arrive sender datagram =>
      exact {
        sent := (List.append_nil _).symm, inbox := rfl, sends := sends, receives := receives }
  | writable =>
      exact {
        sent := (List.append_nil _).symm, inbox := (List.append_nil _).symm
        sends := sends, receives := receives }
  | answer send receive poll =>
      exact {
        sent := (List.append_nil _).symm, inbox := (List.append_nil _).symm
        sends := ⟨sends.1, fun answer member =>
          (List.mem_append.1 member).elim (sends.2 answer) (fair.1 answer)⟩
        receives := fun answer member =>
          (List.mem_append.1 member).elim (receives answer) (fair.2 answer) }

theorem Served.event (served : Served config limit arrivals state stack duty waiting)
    {event : SocketEvent} (fair : event.Fair config.readBufferSize.toNat) :
    Served config limit (arrivals ++ event.arrivals) (state.1.undergo event, state.2) stack duty
      waiting := by
  have before : Served config limit arrivals state stack duty ([] ++ waiting) := served
  have meanwhile := meanwhile_of_event served.running fair
  refine before.meanwhile meanwhile (served.serves.undergo event) fun parcel member => ?_
  cases event with
  | arrive => exact List.mem_singleton.1 member ▸ fair
  | writable | answer => cases member

/-- In every run of a server, what has arrived is answered as the reference does it. -/
theorem served_of_serving {first : EchoServer} (serving : Serving first arrivals state stack)
    (start : Served config limit [] first [] {} []) :
    ∃ duty waiting, Served config limit arrivals state stack duty waiting := by
  -- Only the moves need an argument: events add to what has arrived, and rounds begin at rest.
  induction serving with
  | start => exact ⟨{}, [], start⟩
  | event event _ fair ih =>
      obtain ⟨duty, waiting, served⟩ := ih
      exact ⟨duty, waiting, served.event (served.running.settings ▸ fair)⟩
  | round _ ih =>
      obtain ⟨duty, waiting, served⟩ := ih
      obtain ⟨serves, running, answered, short⟩ := served
      obtain ⟨rfl, rest⟩ := serves.rest_of_nil
      exact ⟨{}, waiting, .poll rest, running, answered, short⟩
  | move _ step own ih =>
      obtain ⟨duty, waiting, served⟩ := ih
      exact served.step step own

theorem served_of_bind {answers : BindAnswers} {taken : Bool} {server : Server Unit Nat}
    (bound : Server.bind answers config taken true = .ok server) :
    Served config limit [] (server, { limit := limit }) [] {} [] := by
  obtain ⟨connection, opened, rfl⟩ := Server.eq_of_bind bound
  obtain rfl := Connection.eq_of_new opened
  refine ⟨.idle (.idle rfl rfl rfl), ?_, rfl, fun _ member => nomatch member⟩
  exact ⟨rfl, rfl, rfl, rfl, rfl, ⟨rfl, fun _ member => nomatch member⟩,
    fun _ member => (nomatch member), fun _ member => (nomatch member), rfl,
    fun _ member => nomatch member⟩

end Step

/--
The rounds of an echo server, with sends that are accepted or have to wait. When everything is read
and nothing is parked, what was sent is what the reference sends, and the registered identifiers are
those that the reference knows.
-/
theorem output_eq_reference {answers : BindAnswers} {config : Config} {taken : Bool}
    {limit : UInt64} {first last : Server Unit Nat} {echo : Echo} {arrivals : List Parcel}
    (bound : Server.bind answers config taken true = .ok first)
    (serving : Serving (first, { limit := limit }) arrivals (last, echo) [])
    (read : last.socket.inbox = []) (vacant : last.udp.parked = none) :
    let reference :=
      arrivals.foldl (Reference.answer config.localIdLength.toNat limit.toNat) {}
    last.socket.sent = reference.output ∧
      last.connection.registry.identifiers = reference.known := by
  intro reference
  obtain ⟨duty, waiting, served⟩ := served_of_serving serving (served_of_bind bound)
  obtain ⟨rfl, rest⟩ := served.serves.rest_of_nil
  -- The flusher only stops with something left to send while a write is parked.
  have nothing : waiting = [] := by
    cases rest with
    | idle => rfl
    | pending _ _ slot => exact absurd (vacant.symm.trans slot) nofun
  have done : reference = prospect config limit (last, echo) {} waiting := served.answered
  rw [done, nothing, prospect, read]
  simp

/-! ## Runs that follow a script -/

structure Course where
  arrivals : List Parcel := []
  state : EchoServer
  stack : List EchoFrame := []

inductive Cue where
  | event (event : SocketEvent)
  | round
  | proceed

namespace Course

/-- The next move of the server itself, if there is one. -/
def advance (course : Course) : Course :=
  match course.stack with
  | .task task :: rest =>
      if echoServer.blocked course.state task then course
      else
        { arrivals := course.arrivals ++ loopback course.state (echoServer.step course.state task).1
          state := (echoServer.step course.state task).1
          stack := (echoServer.step course.state task).2 ++ rest }
  | .call request :: rest => { course with stack := .inside request :: rest }
  | .inside (.flusher request) :: rest =>
      { course with stack := echoServer.resume (.flusher request) () ++ rest }
  | _ => course

def heed (course : Course) : Cue → Course
  | .event event =>
      if event.Fair course.state.1.connection.config.readBufferSize.toNat then
        { course with
          arrivals := course.arrivals ++ event.arrivals
          state := (course.state.1.undergo event, course.state.2) }
      else course
  | .round =>
      if course.stack.isEmpty then { course with stack := echoServer.body .runOnce } else course
  | .proceed => course.advance

def follow (first : EchoServer) (script : List Cue) : Course := script.foldl heed { state := first }

theorem serving_advance {first : EchoServer} {course : Course}
    (serving : Serving first course.arrivals course.state course.stack) :
    Serving first course.advance.arrivals course.advance.state course.advance.stack := by
  have still : course.arrivals ++ loopback course.state course.state = course.arrivals := by
    rw [loopback_of_same rfl, List.append_nil]
  unfold advance
  split
  · next task rest shape =>
    split
    · exact serving
    · next free =>
      rw [shape] at serving
      exact .move serving (.work _ _ _ (Bool.eq_false_iff.2 free)) nofun
  · next request rest shape =>
    rw [shape] at serving
    exact still ▸ serving.move (.begin _ request rest) nofun
  · next request rest shape =>
    rw [shape] at serving
    exact still ▸ serving.move (.finish _ (.flusher request) () rest) nofun
  · exact serving

theorem serving_heed {first : EchoServer} {course : Course}
    (serving : Serving first course.arrivals course.state course.stack) (cue : Cue) :
    Serving first (course.heed cue).arrivals (course.heed cue).state (course.heed cue).stack := by
  cases cue with
  | event event =>
      simp only [heed]
      split
      · next fair => exact .event event serving fair
      · exact serving
  | round =>
      simp only [heed]
      split
      · next idle =>
        rw [List.isEmpty_iff.1 idle] at serving
        exact .round serving
      · exact serving
  | proceed => exact serving_advance serving

theorem serving_follow (first : EchoServer) (script : List Cue) :
    Serving first (follow first script).arrivals (follow first script).state
      (follow first script).stack := by
  refine List.foldlRecOn (motive := fun course : Course =>
    Serving first course.arrivals course.state course.stack) script heed .start ?_
  exact fun _ serving cue _ => serving_heed serving cue

end Course

def tinyServer : Server Unit Nat :=
  { link := ⟨{ config := { localIdLength := 1 } }, { socket := { address := .unspecified } }⟩
    pool := .new 64 }

/-- The first datagram of a client that names itself with one byte. -/
def opening (name : UInt8) : Bytes := [0xc0, 0, 0, 0, 1, 1, name] ++ List.replicate 1193 0

def client : SocketAddress := .v4 127 0 0 1 5000

/-- A client writes again while its first datagram waits to be sent back, and one is too many. -/
def crowd : List Cue :=
  List.flatten
    [[.event (.answer [some .wouldBlock] [] []), .event (.arrive client (opening 17)), .round],
      List.replicate 30 .proceed,
      [.event (.arrive client (opening 18)), .event (.arrive client [0x40, 17])],
      List.replicate 30 .proceed, [.event .writable, .round], List.replicate 60 .proceed]

/-- Both datagrams of the client that is known were sent back, the one that had to wait first. -/
theorem output_after_crowd :
    let course := Course.follow (tinyServer, { limit := 1 }) crowd
    course.state.1.socket.inbox = [] ∧ course.state.1.udp.parked = none ∧
      course.state.1.socket.sent = [(client, opening 17), (client, [0x40, 17])] ∧
        course.state.1.connection.registry.identifiers = [⟨[17]⟩] := by
  intro course
  have bound : Server.bind {} tinyServer.connection.config false true = .ok tinyServer := rfl
  have serving : Serving (tinyServer, { limit := 1 }) course.arrivals course.state course.stack :=
    Course.serving_follow _ crowd
  have idle : course.stack = [] := List.isEmpty_iff.1 (by decide +kernel)
  have read : course.state.1.socket.inbox = [] := by decide +kernel
  have vacant : course.state.1.udp.parked = none := by decide +kernel
  have arrived :
      course.arrivals = [(client, opening 17), (client, opening 18), (client, [0x40, 17])] := by
    decide +kernel
  clear_value course
  rw [idle, arrived] at serving
  obtain ⟨sent, known⟩ := output_eq_reference bound serving read vacant
  refine ⟨read, vacant, sent.trans ?_, known.trans ?_⟩
  · decide +kernel
  · decide +kernel

end Echo

end DatagramMux
