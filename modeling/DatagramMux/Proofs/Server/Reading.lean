import DatagramMux.Proofs.Connection.Closing
import DatagramMux.Proofs.Endpoint.Custody
import DatagramMux.Proofs.Machine.Events
import DatagramMux.Proofs.Machine.Script
import DatagramMux.Proofs.Server.Binding

/-!
# When a server reads its datagrams

An event reports once that datagrams have arrived, and the event loop starts the read loop only if
that was asked for. Whatever happens, somebody has asked for the read loop or is going to, and every
datagram that waits will be reported by an event or is heeded by a read loop that goes on. The one
exception is a read loop that has failed: it asks to be started again, but what it has left behind
waits until something else arrives.
-/

namespace DatagramMux.Server

open Component

variable {Callback Session : Type}

abbrev ServerMove (Callback Session : Type) :=
  Move (Task Callback Session) (Connection.Request Callback Session) (Method Callback)
    Connection.Reply

/-! ## What the frames are for -/

/-- What a frame has to do with reading, as long as the connection is open. -/
inductive Role where
  | bystander
  /-- It belongs to a read loop that goes on. -/
  | reading
  /-- It ends a read loop that has found nothing left. -/
  | drained
  /-- It ends a read loop that has failed. -/
  | failed
  /-- It asks for the read loop. -/
  | asking
  /-- It has seen that datagrams have arrived. -/
  | alerted
  /-- It is not there as long as the connection is open. -/
  | barred
  deriving DecidableEq

namespace Role

/-- Whether it has been or will be asked for the read loop after a frame. -/
def arms : Role → Bool
  | .reading | .drained | .failed | .asking => true
  | .bystander | .alerted | .barred => false

/-- Whether a frame sees to what waits, or to the failure that keeps it from doing so. -/
def heeds : Role → Bool
  | .reading | .failed | .alerted => true
  | .bystander | .drained | .asking | .barred => false

/-- Whether a frame is on top of the stack until its task has been carried out. -/
def passing : Role → Bool
  | .drained | .failed | .asking => true
  | .bystander | .reading | .alerted | .barred => false

/-- What a frame takes for granted. -/
def Fits (server : Server Callback Session) : Role → Prop
  | .drained => server.socket.Heeded
  | .barred => False
  | .bystander | .reading | .failed | .asking | .alerted => True

theorem Fits.later {server next : Server Callback Session} {role : Role} (fits : role.Fits server)
    (kept : server.socket.Heeded → next.socket.Heeded) : role.Fits next := by
  cases role with
  | drained => exact kept fits
  | barred => exact fits
  | bystander | reading | failed | asking | alerted => trivial

theorem Fits.of_not_passing {server next : Server Callback Session} {role : Role}
    (fits : role.Fits server) (calm : role.passing = false) : role.Fits next := by
  cases role with
  | drained => cases calm
  | barred => exact fits
  | bystander | reading | failed | asking | alerted => trivial

/-- Of what arms the server, only a read loop that goes on may lie below others, and it heeds. -/
theorem heeds_of_arms {role : Role} (arms : role.arms = true) (calm : role.passing = false) :
    role.heeds = true := by
  revert arms calm
  cases role <;> decide

end Role

def connectionRole : Connection.Task Callback Session → Role
  | .hold .fillable | .borrow | .countDatagram _ _ | .countBytes _ _ | .identify _
  | .countUnidentified _ | .route _ _ | .countDeclined _ | .vet _ _ _ | .register _ _ _
  | .countRefused _ _ | .confirm _ _ | .withdraw _ _ | .countCreated _ => .reading
  | .sweep (.list .shutdown) | .sweep (.next _ _ .shutdown) | .countClosed _ => .barred
  | .hold _ | .letGo | .flusher _ | .sweep _ | .react | .shut | .unregister _
  | .countUnregistered => .bystander

def endpointRole : Link.EndpointTask Callback → Role
  | .fill _ | .receive _ => .reading
  | .interest | .isOpen => .asking
  | .isOutputOpen | .close => .barred
  | .write _ _ | .shutdownOutput => .bystander

def requestRole : Connection.Request Callback Session → Role
  | .acquire _ _ | .create _ _ | .assign _ _ _ | .process _ _ _ | .discard _ _ => .reading
  | .fill _ | .release _ _ | .isOpen | .sweep (.close _ _ _ .shutdown) => .barred
  | .interest | .shutdownOutput | .closeEndpoint | .sweep _ | .flusher _ => .bystander

def linkRole : Link.Task Callback Session → Role
  | .connection task => connectionRole task
  | .udp .closeInput => .barred
  | .udp _ => .bystander
  | .endpoint task => endpointRole task
  | .answer request _ => requestRole request

def role : ServerFrame Callback Session → Role
  | .task (.link task) => linkRole task
  | .task (.lend _ _) => .reading
  | .task (.takeBack _ .closed) => .barred
  | .task (.takeBack _ .empty) => .drained
  | .task (.takeBack _ (.failed _)) => .failed
  | .task (.read true _) => .alerted
  | .task _ => .bystander
  | .call request | .inside request => requestRole request

theorem connectionRole_cases (task : Connection.Task Callback Session) :
    connectionRole task = .bystander ∨ connectionRole task = .reading ∨
      connectionRole task = .barred := by
  fun_cases connectionRole task <;> simp

theorem requestRole_cases (request : Connection.Request Callback Session) :
    requestRole request = .bystander ∨ requestRole request = .reading ∨
      requestRole request = .barred := by
  fun_cases requestRole request <;> simp

theorem passing_requestRole (request : Connection.Request Callback Session) :
    (requestRole request).passing = false := by
  fun_cases requestRole request <;> rfl

theorem not_passing_of_isInside (frame : ServerFrame Callback Session)
    (under : frame.isInside = true) : (!(role frame).passing) = true := by
  cases frame with
  | task task => cases under
  | call request => cases under
  | inside request => exact congrArg _ (passing_requestRole request)

/-- A frame that needs nothing and may lie anywhere. -/
def Plain (frame : ServerFrame Callback Session) : Prop :=
  role frame = .bystander ∨ role frame = .reading

def lift (frame : Connection.ConnectionFrame Callback Session) : ServerFrame Callback Session :=
  liftLink (Link.liftConnection frame)

theorem told_eq (request : Connection.Request Callback Session) (reply : Connection.Reply request) :
    told request reply = (Connection.resumed request reply).map lift := by
  rw [told, Link.told, List.map_map]
  rfl

theorem role_lift_flusher (frame : Flusher.FlusherFrame Callback) :
    role (lift (Connection.liftFlusher frame) : ServerFrame Callback Session) = .bystander := by
  cases frame with
  | task task => rfl
  | call request => cases request <;> rfl
  | inside request => cases request <;> rfl

theorem role_lift_sweepStep (registry : Registry Session)
    {task : Registry.SweepTask Connection.Purpose}
    (demanded : connectionRole (.sweep task : Connection.Task Callback Session) = .bystander) :
    ∀ frame ∈ (Registry.sweepStep registry task).2,
      role (lift (Connection.liftSweep frame) : ServerFrame Callback Session) = .bystander := by
  have purpose : (∃ left closed, task = .next left closed .demand) ∨ task = .list .demand := by
    rcases task with ⟨- | -⟩ | ⟨left, closed, - | -⟩
    · cases demanded
    · exact .inr rfl
    · cases demanded
    · exact .inl ⟨left, closed, rfl⟩
  rcases purpose with ⟨- | ⟨identifier, left⟩, closed, rfl⟩ | rfl
  · simp [Registry.sweepStep, Connection.liftSweep, lift, Link.liftConnection, liftLink, role,
      requestRole]
  · simp only [Registry.sweepStep]
    split <;> simp [Connection.liftSweep, lift, Link.liftConnection, liftLink, role, linkRole,
      connectionRole, requestRole]
  · simp [Registry.sweepStep, Connection.liftSweep, lift, Link.liftConnection, liftLink, role,
      linkRole, connectionRole]

def GoesOn (put : List (ServerFrame Callback Session)) : Prop :=
  (∀ frame ∈ put, Plain frame) ∧ ∃ frame ∈ put, role frame = .reading

theorem GoesOn.singleton {frame : ServerFrame Callback Session} (reading : role frame = .reading) :
    GoesOn [frame] :=
  ⟨fun _ member => List.mem_singleton.1 member ▸ .inr reading, frame, List.mem_cons_self, reading⟩

theorem goesOn_step {connection : Connection Callback Session}
    {task : Connection.Task Callback Session} (reading : connectionRole task = .reading) :
    GoesOn ((Connection.step connection task).2.map lift) := by
  cases task with
  | hold method =>
      cases method with
      | fillable =>
          refine ⟨?_, _, List.mem_cons_self, rfl⟩
          simp [Connection.step, Connection.begun, lift, Link.liftConnection, liftLink, Plain, role,
            linkRole, connectionRole]
      | _ => cases reading
  | identify | route | vet | register | confirm | withdraw =>
      simp only [Connection.step]
      split <;> exact .singleton rfl
  | borrow | countDatagram | countBytes | countUnidentified | countDeclined | countRefused
  | countCreated => exact .singleton rfl
  | sweep task => rcases task with ⟨- | -⟩ | ⟨left, closed, - | -⟩ <;> cases reading
  | letGo | flusher | react | shut | unregister | countUnregistered | countClosed => cases reading

/-- What has nothing to do with reading leads to nothing that has, unless it closes the connection. -/
theorem bystander_step {connection : Connection Callback Session}
    {task : Connection.Task Callback Session} (bystander : connectionRole task = .bystander)
    (alive : (Connection.step connection task).1.closed = false) :
    ∀ frame ∈ (Connection.step connection task).2.map lift, role frame = .bystander := by
  cases task with
  | hold method =>
      cases method with
      | fillable => cases bystander
      | _ =>
          simp [Connection.step, Connection.begun, lift, Link.liftConnection, liftLink, role,
            linkRole, connectionRole]
  | flusher task =>
      simp only [Connection.step, List.map_map, List.forall_mem_map]
      exact fun frame _ => role_lift_flusher frame
  | sweep task =>
      simp only [Connection.step, List.map_map, List.forall_mem_map]
      exact role_lift_sweepStep connection.registry bystander
  | react | unregister =>
      simp only [Connection.step]
      split <;> simp [lift, Link.liftConnection, liftLink, role, linkRole, connectionRole]
  | shut =>
      have closed := Connection.closed_moved_shut connection
      exact absurd (closed.symm.trans alive) (by decide)
  | letGo | countUnregistered =>
      simp [Connection.step]
  | _ => cases bystander

theorem goesOn_resumed {request : Connection.Request Callback Session}
    (reading : requestRole request = .reading) (reply : Connection.Reply request) :
    GoesOn (told request reply) ∨
      ∃ buffer error, told request reply = [.task (.takeBack buffer (.failed error))] := by
  cases request with
  | acquire | assign | discard => exact .inl (.singleton rfl)
  | create arrival identifier =>
      obtain error | - | session := reply
      · exact .inr ⟨arrival.buffer, error, rfl⟩
      · exact .inl (.singleton rfl)
      · exact .inl (.singleton rfl)
  | process session arrival identifier =>
      obtain error | consumed := reply
      · exact .inr ⟨arrival.buffer, error, rfl⟩
      · exact .inl (.singleton rfl)
  | sweep request => rcases request with ⟨_, _, _, - | -⟩ | ⟨_, _⟩ <;> cases reading
  | fill | release | interest | shutdownOutput | isOpen | closeEndpoint | flusher => cases reading

theorem bystander_resumed {request : Connection.Request Callback Session}
    (bystander : requestRole request = .bystander) (reply : Connection.Reply request) :
    ∀ frame ∈ told request reply, role frame = .bystander := by
  cases request with
  | flusher request =>
      have shape : told (.flusher request) reply =
          (Flusher.resumed request).map fun frame => lift (Connection.liftFlusher frame) := by
        rw [told_eq]
        exact List.map_map
      rw [shape, List.forall_mem_map]
      exact fun frame _ => role_lift_flusher frame
  | sweep request =>
      rcases request with ⟨session, left, closed, - | -⟩ | ⟨closed, purpose⟩
      · cases bystander
      · intro frame member
        obtain rfl := List.mem_singleton.1 member
        rfl
      · exact fun _ member => (nomatch member)
  | interest | shutdownOutput | closeEndpoint => exact fun _ member => (nomatch member)
  | fill | release | isOpen | acquire | create | assign | process | discard => cases bystander

/-! ## The input of the endpoint -/

/-- The input of an endpoint is as it was, except that something may have arrived. -/
structure SameInput (udp next : Udp Nat) : Prop where
  inputOpen : next.inputOpen = udp.inputOpen
  interest : next.interest = udp.interest
  honest : udp.socket.Honest → next.socket.Honest
  heeded : udp.socket.Heeded → next.socket.Heeded

theorem SameInput.refl (udp : Udp Nat) : SameInput udp udp := ⟨rfl, rfl, id, id⟩

theorem sameInput_send {udp next : Udp Nat} (receiver : SocketAddress) (datagram : Bytes)
    (inputOpen : next.inputOpen = udp.inputOpen) (interest : next.interest = udp.interest)
    (socket : next.socket = (udp.socket.send receiver datagram).1) : SameInput udp next := by
  refine ⟨inputOpen, interest, fun honest => ?_, fun heeded => ?_⟩
  · rw [Socket.Honest, socket, Socket.receiveAnswers_send]
    exact honest
  · rw [socket]
    exact heeded.send receiver datagram

theorem sameInput_sendOrPark (udp : Udp Nat) (outgoing : Udp.Outgoing Nat) :
    SameInput udp (udp.sendOrPark outgoing).1 := by
  fun_cases Udp.sendOrPark udp outgoing with
  | case1 socket sending | case2 socket sending | case3 socket kind other sending =>
      exact sameInput_send outgoing.receiver outgoing.datagram rfl rfl (by rw [sending])

theorem sameInput_udpStep (udp : Udp Nat) {task : Udp.Task Nat} (stays : task ≠ .closeInput) :
    SameInput udp (Udp.step udp task).1 := by
  cases task with
  | write outgoing =>
      simp only [Udp.step]
      split
      · exact sameInput_sendOrPark udp outgoing
      · exact ⟨rfl, rfl, id, id⟩
  | retry =>
      simp only [Udp.step]
      split
      · exact ⟨rfl, rfl, id, id⟩
      · next outgoing _ =>
        split
        · have same := sameInput_sendOrPark { udp with parked := none } outgoing
          exact ⟨same.inputOpen, same.interest, same.honest, same.heeded⟩
        · exact ⟨rfl, rfl, id, id⟩
  | closeInput => exact absurd rfl stays
  | lockForWrite | lockForRetry | unlock | closeOutput | lockForClose | giveUp | shutdownOutput =>
      exact ⟨rfl, rfl, id, id⟩

theorem bystander_udpStep (udp : Udp Nat) (task : Udp.Task Nat) (stays : task ≠ .closeInput) :
    ∀ frame ∈ ((Udp.step udp task).2.flatMap Link.liftUdp).map liftLink,
      role (frame : ServerFrame Callback Session) = .bystander := by
  cases task with
  | write outgoing =>
      simp only [Udp.step]
      split <;> simp [Link.liftUdp, liftLink, role, linkRole]
  | retry =>
      simp only [Udp.step]
      split
      · simp [Link.liftUdp, liftLink, role, linkRole]
      · split <;> simp [Link.liftUdp, liftLink, role, linkRole]
  | unlock report? =>
      cases report? <;>
        simp [Udp.step, Link.liftUdp, liftLink, role, linkRole, Connection.begun, connectionRole]
  | closeInput => exact absurd rfl stays
  | lockForWrite | lockForRetry | closeOutput | lockForClose | giveUp | shutdownOutput =>
      simp [Udp.step, Link.liftUdp, liftLink, role, linkRole]

/-! ## What a move does -/

/-- The ending of a read loop that a move brings to its end. -/
def ending? : ServerMove Callback Session → Option Connection.Ending
  | .work (.takeBack _ ending) => some ending
  | _ => none

/-- What a move of a server whose connection stays open does for the reading. -/
structure Upkeep (server : Server Callback Session) (move : ServerMove Callback Session)
    (taken : List (ServerFrame Callback Session)) (next : Server Callback Session)
    (put : List (ServerFrame Callback Session)) : Prop where
  inputOpen : next.udp.inputOpen = true
  honest : next.socket.Honest
  fits : ∀ frame ∈ put, (role frame).Fits next
  above : ∀ frame ∈ put.tail, (role frame).passing = false
  armed : server.udp.interest = true ∨ (∃ frame ∈ taken, (role frame).arms = true) →
    next.udp.interest = true ∨ ∃ frame ∈ put, (role frame).arms = true
  ended : ∀ ending ∈ ending? move, next.socket.Heeded ∨ ∃ error, ending = .failed error
  /-- Only if nobody has asked for it, an event does not start the read loop. -/
  heeded : server.socket.Heeded ∨ (∃ frame ∈ taken, (role frame).heeds = true) →
    (ending? move).isSome = true ∨ next.socket.Heeded ∨
      (∃ frame ∈ put, (role frame).heeds = true) ∨
      server.udp.interest = false ∧ ∀ frame ∈ taken, (role frame).arms = false

section Upkeep

variable {server next : Server Callback Session} {move : ServerMove Callback Session}
variable {taken put : List (ServerFrame Callback Session)}

theorem Plain.fits {frame : ServerFrame Callback Session} (plain : Plain frame) :
    (role frame).Fits next := by
  rcases plain with same | same <;> rw [same] <;> trivial

theorem Plain.not_passing {frame : ServerFrame Callback Session} (plain : Plain frame) :
    (role frame).passing = false := by
  rcases plain with same | same <;> rw [same] <;> rfl

theorem Upkeep.aside (same : SameInput server.udp next.udp) (inputOpen : server.udp.inputOpen = true)
    (honest : server.socket.Honest) (goesOn : ending? move = none)
    (bystanders : ∀ frame ∈ taken, role frame = .bystander) (plain : ∀ frame ∈ put, Plain frame) :
    Upkeep server move taken next put where
  inputOpen := same.inputOpen.trans inputOpen
  honest := same.honest honest
  fits frame member := (plain frame member).fits
  above frame member := (plain frame (List.mem_of_mem_tail member)).not_passing
  armed
    | .inl interest => .inl (same.interest.trans interest)
    | .inr ⟨frame, member, arms⟩ => by
        rw [bystanders frame member] at arms
        cases arms
  ended := by
    rw [goesOn]
    nofun
  heeded
    | .inl heeded => .inr (.inl (same.heeded heeded))
    | .inr ⟨frame, member, heeds⟩ => by
        rw [bystanders frame member] at heeds
        cases heeds

theorem Upkeep.onward (inputOpen : next.udp.inputOpen = true) (honest : next.socket.Honest)
    (unended : ending? move = none) (goesOn : GoesOn put) :
    Upkeep server move taken next put := by
  obtain ⟨plain, frame, member, reading⟩ := goesOn
  refine ⟨inputOpen, honest, fun frame member => (plain frame member).fits,
    fun frame member => (plain frame (List.mem_of_mem_tail member)).not_passing,
    fun _ => .inr ⟨frame, member, by rw [reading]; rfl⟩, ?_,
    fun _ => .inr (.inr (.inl ⟨frame, member, by rw [reading]; rfl⟩))⟩
  rw [unended]
  nofun

theorem Upkeep.fail {buffer : Buffer} {error : MuxError} (inputOpen : next.udp.inputOpen = true)
    (honest : next.socket.Honest) (unended : ending? move = none) :
    Upkeep server move taken next [.task (.takeBack buffer (.failed error))] where
  inputOpen := inputOpen
  honest := honest
  fits other member := by
    rw [List.mem_singleton.1 member]
    trivial
  above _ member := nomatch member
  armed _ := .inr ⟨_, List.mem_cons_self, rfl⟩
  ended := by
    rw [unended]
    nofun
  heeded _ := .inr (.inr (.inl ⟨_, List.mem_cons_self, rfl⟩))

theorem Upkeep.ask {frame : ServerFrame Callback Session} (same : SameInput server.udp next.udp)
    (inputOpen : server.udp.inputOpen = true) (honest : server.socket.Honest)
    (ended : ∀ ending ∈ ending? move, next.socket.Heeded ∨ ∃ error, ending = .failed error)
    (heeds : (ending? move).isSome = true ∨ ∀ frame ∈ taken, (role frame).heeds = false)
    (asking : role frame = .asking) : Upkeep server move taken next [frame] where
  inputOpen := same.inputOpen.trans inputOpen
  honest := same.honest honest
  fits other member := by
    rw [List.mem_singleton.1 member, asking]
    trivial
  above _ member := nomatch member
  armed _ := .inr ⟨frame, List.mem_cons_self, by rw [asking]; rfl⟩
  ended := ended
  heeded
    | .inl heeded => .inr (.inl (same.heeded heeded))
    | .inr ⟨frame, member, heeding⟩ => by
        refine .inl (heeds.resolve_right fun none => ?_)
        rw [none frame member] at heeding
        cases heeding

theorem upkeep_connection (task : Connection.Task Callback Session)
    (fits : (connectionRole task).Fits server) (inputOpen : server.udp.inputOpen = true)
    (honest : server.socket.Honest)
    (alive : (Connection.step server.connection task).1.closed = false) :
    Upkeep server (.work (.link (.connection task))) [.task (.link (.connection task))]
      ((component Callback Session).step server (.link (.connection task))).1
      ((component Callback Session).step server (.link (.connection task))).2 := by
  have shape : ((component Callback Session).step server (.link (.connection task))).2 =
      (Connection.step server.connection task).2.map lift := List.map_map
  have same : SameInput server.udp
      ((component Callback Session).step server (.link (.connection task))).1.udp := .refl server.udp
  rw [shape]
  rcases connectionRole_cases task with bystander | reading | barred
  · refine .aside same inputOpen honest rfl ?_ fun frame member =>
      .inl (bystander_step bystander alive frame member)
    exact fun frame member => List.mem_singleton.1 member ▸ bystander
  · exact .onward inputOpen honest rfl (goesOn_step reading)
  · rw [barred] at fits
    exact fits.elim

theorem upkeep_told {frame : ServerFrame Callback Session}
    (request : Connection.Request Callback Session) (reply : Connection.Reply request)
    (same : role frame = requestRole request) (fits : (requestRole request).Fits server)
    (inputOpen : server.udp.inputOpen = true) (honest : server.socket.Honest)
    (unended : ending? move = none) : Upkeep server move [frame] server (told request reply) := by
  rcases requestRole_cases request with bystander | reading | barred
  · refine .aside (.refl server.udp) inputOpen honest unended ?_ fun frame member =>
      .inl (bystander_resumed bystander reply frame member)
    exact fun other member => List.mem_singleton.1 member ▸ same.trans bystander
  · rcases goesOn_resumed reading reply with goesOn | ⟨buffer, error, shape⟩
    · exact .onward inputOpen honest unended goesOn
    · rw [shape]
      exact .fail inputOpen honest unended
  · rw [barred] at fits
    exact fits.elim

theorem upkeep_udp (task : Udp.Task Nat)
    (fits : (linkRole (.udp task : Link.Task Callback Session)).Fits server)
    (inputOpen : server.udp.inputOpen = true) (honest : server.socket.Honest) :
    Upkeep server (.work (.link (.udp task))) [.task (.link (.udp task))]
      ((component Callback Session).step server (.link (.udp task))).1
      ((component Callback Session).step server (.link (.udp task))).2 := by
  have stays : task ≠ .closeInput := by
    rintro rfl
    exact fits.elim
  have bystander : linkRole (.udp task : Link.Task Callback Session) = .bystander := by
    cases task <;> first | rfl | exact absurd rfl stays
  refine .aside (sameInput_udpStep server.udp stays) inputOpen honest rfl ?_ fun frame member =>
    .inl (bystander_udpStep server.udp task stays frame member)
  exact fun frame member => List.mem_singleton.1 member ▸ bystander

theorem upkeep_receive (buffer : Buffer) (inputOpen : server.udp.inputOpen = true)
    (honest : server.socket.Honest) :
    Upkeep server (.work (.link (.endpoint (.receive buffer))))
      [.task (.link (.endpoint (.receive buffer)))]
      ((component Callback Session).step server (.link (.endpoint (.receive buffer)))).1
      ((component Callback Session).step server (.link (.endpoint (.receive buffer)))).2 := by
  have honestThen : server.link.udp.socket.receive.1.Honest := honest.receive
  simp only [component, step, Link.step, Link.endpointStep, Udp.receive]
  split
  · next socket sender datagram received =>
    rw [received] at honestThen
    exact .onward inputOpen honestThen rfl (.singleton rfl)
  · next socket received =>
    rw [received] at honestThen
    have heeded : socket.Heeded := .inl (Socket.inbox_of_wouldBlock honest received)
    refine ⟨inputOpen, honestThen, fun frame member => ?_, fun _ member => (nomatch member),
      fun _ => .inr ⟨_, List.mem_cons_self, rfl⟩, nofun, fun _ => .inr (.inl heeded)⟩
    rw [List.mem_singleton.1 member]
    exact heeded
  · next socket kind other received =>
    rw [received] at honestThen
    exact .fail inputOpen honestThen rfl

theorem upkeep_endpoint (task : Link.EndpointTask Callback)
    (fits : (endpointRole task).Fits server) (inputOpen : server.udp.inputOpen = true)
    (honest : server.socket.Honest) :
    Upkeep server (.work (.link (.endpoint task))) [.task (.link (.endpoint task))]
      ((component Callback Session).step server (.link (.endpoint task))).1
      ((component Callback Session).step server (.link (.endpoint task))).2 := by
  cases task with
  | fill buffer =>
      have shape : (component Callback Session).step server (.link (.endpoint (.fill buffer))) =
          (server, [.task (.link (.endpoint (.receive buffer)))]) := by
        have openNow : server.link.udp.inputOpen = true := inputOpen
        simp only [component, step, Link.step, Link.endpointStep, openNow, if_true]
        rfl
      rw [shape]
      exact .onward inputOpen honest rfl (.singleton rfl)
  | receive buffer => exact upkeep_receive buffer inputOpen honest
  | write ticket entry =>
      refine .aside (.refl server.udp) inputOpen honest rfl
        (fun frame member => List.mem_singleton.1 member ▸ rfl) fun frame member => .inl ?_
      rcases List.mem_cons.1 member with rfl | member
      · rfl
      · exact List.mem_singleton.1 member ▸ rfl
  | interest =>
      refine ⟨inputOpen, honest, fun _ member => (nomatch member), fun _ member => (nomatch member),
        fun _ => .inl rfl, nofun, ?_⟩
      rintro (heeded | ⟨frame, member, heeds⟩)
      · exact .inr (.inl heeded)
      · rw [List.mem_singleton.1 member] at heeds
        cases heeds
  | isOpen =>
      have shape : (component Callback Session).step server (.link (.endpoint .isOpen)) =
          (server, [.task (.link (.endpoint .interest))]) := by
        have openNow : server.link.udp.inputOpen = true := inputOpen
        simp only [component, step, Link.step, Link.endpointStep, openNow, if_true]
        rfl
      rw [shape]
      exact .ask (.refl server.udp) inputOpen honest nofun
        (.inr fun frame member => List.mem_singleton.1 member ▸ rfl) rfl
  | shutdownOutput =>
      refine .aside (.refl server.udp) inputOpen honest rfl
        (fun frame member => List.mem_singleton.1 member ▸ rfl) fun frame member => .inl ?_
      rcases List.mem_cons.1 member with rfl | member
      · rfl
      · exact List.mem_singleton.1 member ▸ rfl
  | isOutputOpen | close => exact fits.elim

theorem Upkeep.pass {task : Task Callback Session} (same : SameInput server.udp next.udp)
    (inputOpen : server.udp.inputOpen = true) (honest : server.socket.Honest)
    (unended : ending? (.work task) = none) (bystander : role (.task task) = .bystander)
    (bystanders : ∀ frame ∈ put, role frame = .bystander) :
    Upkeep server (.work task) [.task task] next put :=
  .aside same inputOpen honest unended
    (fun _ member => List.mem_singleton.1 member ▸ bystander)
    fun frame member => .inl (bystanders frame member)

theorem bystander_leave (result : Except MuxError Unit) :
    ∀ frame ∈ (leave result : List (ServerFrame Callback Session)), role frame = .bystander := by
  intro frame member
  rcases List.mem_cons.1 member with rfl | member
  · rfl
  · exact List.mem_singleton.1 member ▸ rfl

theorem role_singleton {frame : ServerFrame Callback Session} {expected : Role}
    (same : role frame = expected) : ∀ other ∈ [frame], role other = expected :=
  fun _ member => List.mem_singleton.1 member ▸ same

/-- Waiting for an event takes the report away from what has arrived, and alerts the event loop. -/
theorem upkeep_poll (looping : Bool) (inputOpen : server.udp.inputOpen = true)
    (honest : server.socket.Honest) :
    Upkeep server (.work (.poll looping)) [.task (.poll looping)]
      (step server (.poll looping)).1 (step server (.poll looping)).2 := by
  have honestThen := honest.poll
  have quietly {socket : Socket} {result : Except IoKind (Option Bool)}
      (polled : server.socket.poll = (socket, result)) (other : result ≠ .ok (some true)) :
      SameInput server.udp { server.udp with socket := socket } := by
    rw [polled] at honestThen
    exact ⟨rfl, rfl, fun _ => honestThen, fun heeded =>
      (Socket.heeded_poll polled heeded).resolve_right other⟩
  simp only [step]
  split
  · next socket polled =>
    exact .pass (quietly polled nofun) inputOpen honest rfl rfl (role_singleton rfl)
  · next socket kind other polled =>
    exact .pass (quietly polled nofun) inputOpen honest rfl rfl (role_singleton rfl)
  · next socket polled =>
    exact .pass (quietly polled nofun) inputOpen honest rfl rfl (role_singleton rfl)
  · next socket readable polled =>
    cases readable with
    | false =>
        refine .pass (quietly polled (by simp)) inputOpen honest rfl rfl fun frame member => ?_
        rcases List.mem_cons.1 member with rfl | member
        · rfl
        · exact List.mem_singleton.1 member ▸ rfl
    | true =>
        -- The event is reported only here, so from now on the next frame has to know of it.
        rw [polled] at honestThen
        have alerted : .task (.read true looping) ∈
            (enterLink .writable ++ [.task (.read true looping)] :
              List (ServerFrame Callback Session)) :=
          List.mem_append_right _ List.mem_cons_self
        refine ⟨inputOpen, honestThen, fun frame member => ?_, fun frame member => ?_, ?_, nofun,
          fun _ => .inr (.inr (.inl ⟨_, alerted, rfl⟩))⟩
        · rcases List.mem_cons.1 member with rfl | member
          · trivial
          · rw [List.mem_singleton.1 member]
            trivial
        · rw [List.mem_singleton.1 member]
          rfl
        · rintro (interest | ⟨frame, member, arms⟩)
          · exact .inl interest
          · rw [List.mem_singleton.1 member] at arms
            cases arms

theorem upkeep_read (readable looping : Bool) (inputOpen : server.udp.inputOpen = true)
    (honest : server.socket.Honest) :
    Upkeep server (.work (.read readable looping)) [.task (.read readable looping)]
      (step server (.read readable looping)).1 (step server (.read readable looping)).2 := by
  simp only [step]
  cases readable with
  | false => exact .pass (.refl server.udp) inputOpen honest rfl rfl (role_singleton rfl)
  | true =>
      cases interested : server.udp.interest with
      | true =>
          simp only [if_true, Udp.takeInterest, interested]
          refine .onward inputOpen honest rfl ⟨fun frame member => ?_, _, List.mem_cons_self, rfl⟩
          rcases List.mem_cons.1 member with rfl | member
          · exact .inr rfl
          · exact .inl (List.mem_singleton.1 member ▸ rfl)
      | false =>
          simp only [if_true, Udp.takeInterest, interested, Bool.false_eq_true, if_false,
            List.nil_append]
          refine ⟨inputOpen, honest, fun frame member => ?_, fun _ member => (nomatch member), ?_,
            fun _ none => (nomatch none),
            fun _ => .inr (.inr (.inr ⟨interested, fun frame member => ?_⟩))⟩
          · rw [List.mem_singleton.1 member]
            trivial
          · rintro (interest | ⟨frame, member, arms⟩)
            · exact absurd (interested.symm.trans interest) (by decide)
            · rw [List.mem_singleton.1 member] at arms
              cases arms
          · rw [List.mem_singleton.1 member]
            rfl

theorem upkeep_work (task : Task Callback Session)
    (fits : (role (.task task : ServerFrame Callback Session)).Fits server)
    (inputOpen : server.udp.inputOpen = true) (honest : server.socket.Honest)
    (alive : (step server task).1.connection.closed = false) :
    Upkeep server (.work task) [.task task] (step server task).1 (step server task).2 := by
  cases task with
  | link task =>
      cases task with
      | connection task => exact upkeep_connection task fits inputOpen honest alive
      | udp task => exact upkeep_udp task fits inputOpen honest
      | endpoint task => exact upkeep_endpoint task fits inputOpen honest
      | answer request reply => exact upkeep_told request reply rfl fits inputOpen honest rfl
  | lend least direct => exact .onward inputOpen honest rfl (.singleton rfl)
  | takeBack buffer ending =>
      cases ending with
      | closed => exact fits.elim
      | empty =>
          refine .ask (.refl server.udp) inputOpen honest (fun ending _ => .inl fits) (.inl rfl) rfl
      | failed error =>
          refine .ask (.refl server.udp) inputOpen honest (fun ending same => .inr ?_) (.inl rfl) rfl
          exact ⟨error, (Option.some.inj same).symm⟩
  | consult | consultConnection =>
      simp only [step]
      split
      · exact .pass (.refl server.udp) inputOpen honest rfl rfl (bystander_leave (.ok ()))
      · exact .pass (.refl server.udp) inputOpen honest rfl rfl (role_singleton rfl)
  | poll looping => exact upkeep_poll looping inputOpen honest
  | read readable looping => exact upkeep_read readable looping inputOpen honest
  | endRound result looping =>
      rcases looping with - | -
      · exact .pass (.refl server.udp) inputOpen honest rfl rfl fun _ member => (nomatch member)
      · rcases result with error | count
        · exact .pass (.refl server.udp) inputOpen honest rfl rfl (bystander_leave (.error error))
        · exact .pass (.refl server.udp) inputOpen honest rfl rfl (role_singleton rfl)
  | endLoop result =>
      exact .pass (.refl server.udp) inputOpen honest rfl rfl fun _ member => (nomatch member)

theorem plain_body (method : Method Callback) :
    ∀ frame ∈ ((component Callback Session).body method), Plain frame := by
  intro frame member
  cases method with
  | connection method =>
      rw [List.mem_singleton.1 member]
      cases method <;> first | exact .inl rfl | exact .inr rfl
  | runOnce | run => exact .inl (List.mem_singleton.1 member ▸ rfl)

theorem upkeep_of_exchange
    (exchange : Exchange (component Callback Session) server move taken next put)
    (fits : ∀ frame ∈ taken, (role frame).Fits server) (inputOpen : server.udp.inputOpen = true)
    (honest : server.socket.Honest) (alive : next.connection.closed = false) :
    Upkeep server move taken next put := by
  cases exchange with
  | work task => exact upkeep_work task (fits _ List.mem_cons_self) inputOpen honest alive
  | «begin» request =>
      have fit : (requestRole request).Fits server := fits _ List.mem_cons_self
      rcases requestRole_cases request with bystander | reading | barred
      · exact .aside (.refl server.udp) inputOpen honest rfl
          (fun frame member => List.mem_singleton.1 member ▸ bystander)
          fun frame member => List.mem_singleton.1 member ▸ .inl bystander
      · exact .onward inputOpen honest rfl (.singleton reading)
      · rw [barred] at fit
        exact fit.elim
  | finish request reply =>
      exact upkeep_told request reply rfl (fits _ List.mem_cons_self) inputOpen honest rfl
  | enter method =>
      exact .aside (.refl server.udp) inputOpen honest rfl (fun _ member => (nomatch member))
        (plain_body method)

theorem closed_of_step (closed : server.connection.closed = true) (task : Task Callback Session) :
    (step server task).1.connection.closed = true := by
  cases task with
  | link task =>
      cases task with
      | connection task => exact Connection.closed_moved closed (.work task)
      | udp | endpoint | answer => exact closed
  | consult | consultConnection | poll =>
      simp only [step]
      split <;> exact closed
  | read readable looping => cases readable <;> exact closed
  | endRound result looping => rcases looping with - | - <;> rcases result with - | - <;> exact closed
  | lend | takeBack | endLoop => exact closed

theorem closed_of_exchange
    (exchange : Exchange (component Callback Session) server move taken next put)
    (closed : server.connection.closed = true) : next.connection.closed = true := by
  cases exchange with
  | work task => exact closed_of_step closed task
  | «begin» | finish | enter => exact closed

end Upkeep

/-! ## Runs -/

/-- The endings of the read loops in a list of moves, oldest first. -/
def endings (moves : List (ServerMove Callback Session)) : List Connection.Ending :=
  moves.filterMap ending?

/-- The read loop that ended last has failed. -/
def LastFailed (moves : List (ServerMove Callback Session)) : Prop :=
  ∃ error, (endings moves).getLast? = some (.failed error)

theorem endings_concat (moves : List (ServerMove Callback Session))
    (move : ServerMove Callback Session) :
    endings (moves ++ [move]) = endings moves ++ (ending? move).toList := by
  rw [endings, List.filterMap_append, filterMap_singleton, endings]

theorem LastFailed.concat {moves : List (ServerMove Callback Session)}
    {move : ServerMove Callback Session} (failed : LastFailed moves)
    (unended : ending? move = none) : LastFailed (moves ++ [move]) := by
  rw [LastFailed, endings_concat, unended, Option.toList_none, List.append_nil]
  exact failed

theorem lastFailed_of_ending {moves : List (ServerMove Callback Session)}
    {move : ServerMove Callback Session} {error : MuxError}
    (ended : ending? move = some (.failed error)) : LastFailed (moves ++ [move]) :=
  ⟨error, by rw [endings_concat, ended, Option.toList_some, List.getLast?_concat]⟩

/-- Somebody has asked for the read loop or will do so, and somebody heeds what waits. -/
structure Watchful (moves : List (ServerMove Callback Session)) (server : Server Callback Session)
    (stack : List (ServerFrame Callback Session)) : Prop where
  inputOpen : server.udp.inputOpen = true
  honest : server.socket.Honest
  fits : ∀ frame ∈ stack, (role frame).Fits server
  below : ∀ frame ∈ stack.tail, (!(role frame).passing) = true
  armed : server.udp.interest = true ∨ ∃ frame ∈ stack, (role frame).arms = true
  heeded : LastFailed moves ∨ server.socket.Heeded ∨ ∃ frame ∈ stack, (role frame).heeds = true

section Run

variable {server next : Server Callback Session} {move : ServerMove Callback Session}
variable {moves : List (ServerMove Callback Session)}
variable {stack nextStack : List (ServerFrame Callback Session)}

theorem Watchful.undergo (watchful : Watchful moves server stack) {event : SocketEvent}
    (honest : event.Honest) : Watchful moves (server.undergo event) stack where
  inputOpen := watchful.inputOpen
  honest := watchful.honest.undergo honest
  fits frame member := (watchful.fits frame member).later fun heeded => heeded.undergo event
  below := watchful.below
  armed := watchful.armed
  heeded := watchful.heeded.imp_right (.imp_left fun heeded => heeded.undergo event)

theorem Watchful.heeded_later {taken put rest : List (ServerFrame Callback Session)}
    (watchful : Watchful moves server (taken ++ rest)) (upkeep : Upkeep server move taken next put)
    (calm : ∀ frame ∈ rest, (role frame).passing = false) :
    LastFailed (moves ++ [move]) ∨ next.socket.Heeded ∨
      ∃ frame ∈ put ++ rest, (role frame).heeds = true := by
  cases ended : ending? move with
  | some ending =>
      rcases upkeep.ended ending ended with heeded | ⟨error, rfl⟩
      · exact .inr (.inl heeded)
      · exact .inl (lastFailed_of_ending ended)
  | none =>
      have onward
          (before : server.socket.Heeded ∨ ∃ frame ∈ taken, (role frame).heeds = true) :
          next.socket.Heeded ∨ ∃ frame ∈ put ++ rest, (role frame).heeds = true := by
        rcases upkeep.heeded before with unended | heeded | ⟨frame, inPut, heeds⟩ | ⟨unasked, unarmed⟩
        · rw [ended] at unended
          cases unended
        · exact .inl heeded
        · exact .inr ⟨frame, List.mem_append_left rest inPut, heeds⟩
        · -- The event starts nothing, but then a read loop that goes on lies below.
          rcases watchful.armed with interest | ⟨frame, member, arms⟩
          · exact absurd (unasked.symm.trans interest) (by decide)
          · rcases List.mem_append.1 member with inTaken | inRest
            · exact absurd ((unarmed frame inTaken).symm.trans arms) (by decide)
            · exact .inr ⟨frame, List.mem_append_right put inRest,
                Role.heeds_of_arms arms (calm frame inRest)⟩
      rcases watchful.heeded with failed | heeded | ⟨frame, member, heeds⟩
      · exact .inl (failed.concat ended)
      · exact .inr (onward (.inl heeded))
      · rcases List.mem_append.1 member with inTaken | inRest
        · exact .inr (onward (.inr ⟨frame, inTaken, heeds⟩))
        · exact .inr (.inr ⟨frame, List.mem_append_right put inRest, heeds⟩)

theorem Watchful.step (step : Step (component Callback Session) server stack move next nextStack)
    (watchful : Watchful moves server stack) (alive : next.connection.closed = false) :
    Watchful (moves ++ [move]) next nextStack := by
  obtain ⟨taken, put, rest, rfl, rfl, exchange, below⟩ :=
    step.exchange_of_tail not_passing_of_isInside watchful.below
  have upkeep := upkeep_of_exchange exchange
    (fun frame member => watchful.fits frame (List.mem_append_left rest member))
    watchful.inputOpen watchful.honest alive
  have calm (frame : ServerFrame Callback Session) (member : frame ∈ rest) :
      (role frame).passing = false := by
    simpa using below frame member
  refine ⟨upkeep.inputOpen, upkeep.honest, ?_, ?_, ?_, ?_⟩
  · intro frame member
    rcases List.mem_append.1 member with inPut | inRest
    · exact upkeep.fits frame inPut
    · exact (watchful.fits frame (List.mem_append_right taken inRest)).of_not_passing
        (calm frame inRest)
  · intro frame member
    rcases put with - | ⟨first, put⟩
    · exact below frame (List.mem_of_mem_tail member)
    · rcases List.mem_append.1 member with inPut | inRest
      · simpa using upkeep.above frame inPut
      · exact below frame inRest
  · have onward (before : server.udp.interest = true ∨ ∃ frame ∈ taken, (role frame).arms = true) :
        next.udp.interest = true ∨ ∃ frame ∈ put ++ rest, (role frame).arms = true :=
      (upkeep.armed before).imp_right fun ⟨frame, inPut, arms⟩ =>
        ⟨frame, List.mem_append_left rest inPut, arms⟩
    rcases watchful.armed with interest | ⟨frame, member, arms⟩
    · exact onward (.inl interest)
    · rcases List.mem_append.1 member with inTaken | inRest
      · exact onward (.inr ⟨frame, inTaken, arms⟩)
      · exact .inr ⟨frame, List.mem_append_right put inRest, arms⟩
  · exact watchful.heeded_later upkeep calm

end Run

theorem watchful_of_bind {answers : BindAnswers} {config : Config} {taken routed : Bool}
    {first : Server Callback Session} (bound : bind answers config taken routed = .ok first) :
    Watchful [] first [] := by
  obtain ⟨connection, -, rfl⟩ := eq_of_bind bound
  exact ⟨rfl, fun member => (nomatch member), fun _ member => (nomatch member),
    fun _ member => (nomatch member), .inl rfl, .inr (.inl (.inl rfl))⟩

/--
Whenever the event loop is not in the middle of a round and the connection is open, it has been asked
for the read loop, and nothing waits that no event has reported, unless the last read loop has failed.
-/
theorem nothing_stranded_unless_failed {answers : BindAnswers} {config : Config}
    {taken routed : Bool} {first last : Server Callback Session}
    {moves : List (ServerMove Callback Session)} {events : List SocketEvent}
    (bound : bind answers config taken routed = .ok first)
    (run : EventRun (component Callback Session) undergo first [] moves events last [])
    (honest : ∀ event ∈ events, event.Honest) (alive : last.connection.closed = false) :
    last.udp.interest = true ∧
      (last.socket.inbox = [] ∨ last.socket.readable = true ∨
        ∃ error, (endings moves).getLast? = some (.failed error)) := by
  have watchful : Watchful moves last [] := by
    refine run.invariant (fun moves events server stack =>
      (∀ event ∈ events, event.Honest) → server.connection.closed = false →
        Watchful moves server stack) ?_ ?_ (fun _ _ => watchful_of_bind bound) honest alive
    · intro moves events server stack move next nextStack step before honest alive
      have aliveBefore : server.connection.closed = false := by
        rw [Bool.eq_false_iff]
        intro closed
        obtain ⟨taken, put, rest, -, -, exchange⟩ := step.exchange
        exact absurd ((closed_of_exchange exchange closed).symm.trans alive) (by decide)
      exact (before honest aliveBefore).step step alive
    · intro moves events server stack event before honest alive
      exact (before (fun other member => honest other (List.mem_append_left _ member)) alive).undergo
        (honest event (List.mem_append_right _ List.mem_cons_self))
  refine ⟨watchful.armed.resolve_right fun ⟨_, member, _⟩ => (nomatch member), ?_⟩
  rcases watchful.heeded with failed | (nothing | readable) | ⟨_, member, _⟩
  · exact .inr (.inr failed)
  · exact .inl nothing
  · exact .inr (.inl readable)
  · cases member

/-! ## A receive that fails -/

def plainServer : Server Unit Unit :=
  { link := ⟨{}, { socket := { address := .unspecified } }⟩, pool := .new 64 }

def soleRound : List (Choice (Connection.Request Unit Unit) (Method Unit) Connection.Reply) :=
  .enter .runOnce :: List.replicate 40 .proceed

def roundAfter (server : Server Unit Unit) (events : List SocketEvent) :
    Trace (Server Unit Unit) (Task Unit Unit) (Connection.Request Unit Unit) (Method Unit)
      Connection.Reply :=
  Trace.follow (component Unit Unit) (events.foldl undergo server) soleRound

theorem run_roundAfter {server : Server Unit Unit} {moves : List (ServerMove Unit Unit)}
    {past : List SocketEvent}
    (run : EventRun (component Unit Unit) undergo plainServer [] moves past server [])
    (events : List SocketEvent) :
    EventRun (component Unit Unit) undergo plainServer [] (moves ++ (roundAfter server events).moves)
      (past ++ events) (roundAfter server events).state (roundAfter server events).stack :=
  (run.happen events).append (Trace.run_follow (component Unit Unit) _ soleRound)

/-- A datagram arrives, but the system is going to report that an earlier one was refused. -/
def refusal : List SocketEvent :=
  [.answer [] [some .connectionRefused] [], .arrive default [17]]

/-- After a receive that failed, the round returns well, and nothing will report what is left. -/
theorem stranded_after_refusal :
    let trace := roundAfter plainServer refusal
    bind {} {} false true = .ok plainServer ∧
      EventRun (component Unit Unit) undergo plainServer [] trace.moves refusal trace.state [] ∧
      trace.state.returned? = some (.round (.ok 1)) ∧ trace.state.connection.closed = false ∧
      trace.state.socket.inbox = [(default, [17])] ∧ trace.state.socket.readable = false := by
  intro trace
  have quiet : trace.stack = [] := List.isEmpty_iff.1 (by decide +kernel)
  refine ⟨rfl, quiet ▸ run_roundAfter (.refl plainServer []) refusal, rfl, ?_⟩
  decide +kernel

/-- Only when something else arrives, the next round reads what was left and what has arrived. -/
theorem drained_after_arrival :
    let failed := roundAfter plainServer refusal
    let trace := roundAfter failed.state [.arrive default [18]]
    (∀ event ∈ refusal ++ [.arrive default [18]], event.Honest) ∧
      trace.state.connection.closed = false ∧ trace.state.connection.received = 2 ∧
        trace.state.udp.interest = true ∧ trace.state.socket.inbox = [] := by
  intro failed trace
  have bound : bind {} {} false true = .ok plainServer := rfl
  have honest : ∀ event ∈ refusal ++ [.arrive default [18]], event.Honest := by
    simp [refusal, SocketEvent.Honest]
  have idle : failed.stack = [] := List.isEmpty_iff.1 (by decide +kernel)
  have quiet : trace.stack = [] := List.isEmpty_iff.1 (by decide +kernel)
  have before : EventRun (component Unit Unit) undergo plainServer [] failed.moves refusal
      failed.state failed.stack := run_roundAfter (.refl plainServer []) refusal
  rw [idle] at before
  have run : EventRun (component Unit Unit) undergo plainServer [] (failed.moves ++ trace.moves)
      (refusal ++ [.arrive default [18]]) trace.state trace.stack :=
    run_roundAfter before [.arrive default [18]]
  rw [quiet] at run
  have alive : trace.state.connection.closed = false := by decide +kernel
  have received : trace.state.connection.received = 2 := by decide +kernel
  have unreadable : trace.state.socket.readable = false := by decide +kernel
  have ended : (endings (failed.moves ++ trace.moves)).getLast? = some .empty := by
    decide +kernel
  clear_value failed trace
  obtain ⟨interest, nothing | readable | ⟨error, last⟩⟩ :=
    nothing_stranded_unless_failed bound run honest alive
  · exact ⟨honest, alive, received, interest, nothing⟩
  · exact absurd (unreadable.symm.trans readable) (by decide)
  · exact absurd (ended.symm.trans last) (by simp)

end DatagramMux.Server
