import DatagramMux.Proofs.Connection.Reception
import DatagramMux.Proofs.Link.Surface
import DatagramMux.Proofs.Machine.Script
import Mathlib.Logic.Relation

/-!
# Datagrams in borrowed buffers

A read loop receives one datagram after the other in the same buffer, which comes from a pool that
others use as well and may have held anything before. All the same, what it hands on is the datagram
that the system has delivered, as far as the buffer has room for it, and the buffer has room for as
many bytes as the configuration says. Any number of threads may run read loops, inside each other and
at the same time.
-/

namespace DatagramMux.Link

open Component
open Connection (Arrival)

variable {Callback Session : Type}

/-! ## What is noted of a thread -/

/-- A datagram that the system has delivered, with the room of the buffer it was received in. -/
structure Delivery where
  room : Nat
  sender : SocketAddress
  datagram : Bytes
  deriving DecidableEq

/-- As much of a datagram as there was room for. -/
def Delivery.received (delivery : Delivery) : Bytes :=
  delivery.datagram.take (min delivery.datagram.length delivery.room)

/-- What a thread has borrowed, received and routed. -/
structure Logbook where
  /-- The room of each buffer that was lent and not given back, that of the innermost loop first. -/
  loans : List Nat := []
  delivered : List Delivery := []
  dispatched : List Arrival := []

/-- What is noted of a move: what the pool lends, what the system delivers, and what is routed. -/
def record (link : Link Callback Session) (log : Logbook) : LinkMove Callback Session → Logbook
  | .finish (.acquire _ _) buffer => { log with loans := Buffer.capacity buffer :: log.loans }
  | .begin (.release _ _) => { log with loans := log.loans.tail }
  | .work (.endpoint (.receive _)) =>
      match link.udp.socket.receive with
      | (_, .ok (sender, datagram)) =>
          { log with delivered := log.delivered ++ [⟨log.loans.headD 0, sender, datagram⟩] }
      | (_, .error _) => log
  | .work (.connection (.identify arrival)) =>
      { log with dispatched := log.dispatched ++ [arrival] }
  | _ => log

/--
Whether what is routed is what was delivered: its sender, and its first bytes, as many as there was
room for; and there was room for as many as were agreed on. The buffer shows nothing else.
-/
structure Intact (size : Nat) (delivery : Delivery) (arrival : Arrival) : Prop where
  remote : arrival.remote = delivery.sender
  datagram : arrival.datagram = delivery.received
  visible : arrival.buffer.contents = arrival.datagram
  whole : delivery.datagram.length ≤ size → arrival.datagram = delivery.datagram
  least : size < delivery.datagram.length → size ≤ min delivery.datagram.length delivery.room

theorem intact_of_le {size room : Nat} {sender : SocketAddress} {datagram : Bytes} {filled : Buffer}
    (enough : size ≤ room)
    (contents : filled.contents = datagram.take (min datagram.length room)) :
    Intact size ⟨room, sender, datagram⟩
      ⟨filled, sender, filled.contents.take (min datagram.length room)⟩ := by
  have same : filled.contents.take (min datagram.length room) = filled.contents := by
    rw [contents, List.take_take, Nat.min_self]
  rw [same]
  refine ⟨rfl, contents, rfl, fun short => ?_, fun long => le_min long.le enough⟩
  rw [contents, Nat.min_eq_left (short.trans enough)]
  exact List.take_length

theorem map_datagram_of_intact {size : Nat} {delivered : List Delivery} {dispatched : List Arrival}
    (intact : List.Forall₂ (Intact size) delivered dispatched) :
    dispatched.map Arrival.datagram = delivered.map Delivery.received := by
  induction intact with
  | nil => rfl
  | cons here _ ih => rw [List.map_cons, List.map_cons, here.datagram, ih]

/-- The room of the buffers that a thread has. -/
def borrowed (stack : List (LinkFrame Callback Session)) : List Nat :=
  (stack.filterMap connectionFrame?).filterMap Connection.room?

/-- The datagrams that a thread has received and not yet routed. -/
def pending (stack : List (LinkFrame Callback Session)) : List Arrival :=
  (stack.filterMap connectionFrame?).filterMap Connection.arrived?

theorem borrowed_append (above below : List (LinkFrame Callback Session)) :
    borrowed (above ++ below) = borrowed above ++ borrowed below := by
  rw [borrowed, List.filterMap_append, List.filterMap_append]
  rfl

theorem pending_append (above below : List (LinkFrame Callback Session)) :
    pending (above ++ below) = pending above ++ pending below := by
  rw [pending, List.filterMap_append, List.filterMap_append]
  rfl

theorem borrowed_map (frames : List (Connection.ConnectionFrame Callback Session)) :
    borrowed (frames.map liftConnection) = frames.filterMap Connection.room? := by
  rw [borrowed, filterMap_map_liftConnection]

theorem pending_map (frames : List (Connection.ConnectionFrame Callback Session)) :
    pending (frames.map liftConnection) = frames.filterMap Connection.arrived? := by
  rw [pending, filterMap_map_liftConnection]

theorem arrived_of_lies {frame : LinkFrame Callback Session} (below : lies frame = true) :
    (connectionFrame? frame).bind Connection.arrived? = none := by
  unfold lies at below
  split at below <;> first | rfl | cases below

/-- A datagram is routed before anything else is done. -/
theorem pending_eq_nil {frames : List (LinkFrame Callback Session)}
    (lying : ∀ frame ∈ frames, lies frame = true) : pending frames = [] := by
  rw [pending, List.filterMap_filterMap]
  exact List.filterMap_eq_nil_iff.2 fun frame member => arrived_of_lies (lying frame member)

/-! ## What is kept for each thread -/

/-- Buffers of one size are asked for, and nobody but the endpoint fills them. -/
def Offered (size : Nat) : Connection.Request Callback Session → Prop
  | .acquire least _ => least = size
  | .fill _ => False
  | _ => True

/-- A buffer is empty before it is filled, and what the endpoint answers later is about no buffer. -/
def Fits (size : Nat) : LinkFrame Callback Session → Prop
  | .task (.endpoint (.fill buffer)) | .task (.endpoint (.receive buffer)) => buffer.contents = []
  | .task (.answer request reply) => Connection.returned? request reply = none
  | .call request | .inside request => Offered size request
  | _ => True

theorem fits_liftConnection {size : Nat} {frame : Connection.ConnectionFrame Callback Session}
    (prompt : Connection.Prompt size frame) : Fits size (liftConnection frame) := by
  cases frame with
  | task task => trivial
  | call request =>
      cases request with
      | flusher request => cases request <;> trivial
      | acquire | fill => exact prompt
      | _ => trivial
  | inside request => cases request <;> exact prompt

theorem fits_map {size : Nat} {frames : List (Connection.ConnectionFrame Callback Session)}
    (prompt : ∀ frame ∈ frames, Connection.Prompt size frame) :
    ∀ frame ∈ frames.map liftConnection, Fits size frame :=
  List.forall_mem_map.2 fun frame member => fits_liftConnection (prompt frame member)

/-- What was noted of a thread is true of its stack, and what it routes is what was delivered. -/
structure Truthful (size : Nat) (log : Logbook) (stack : List (LinkFrame Callback Session)) : Prop where
  fits : ∀ frame ∈ stack, Fits size frame
  loans : log.loans = borrowed stack
  room : ∀ room ∈ log.loans, size ≤ room
  intact : List.Forall₂ (Intact size) log.delivered (log.dispatched ++ pending stack)

variable {size : Nat} {log : Logbook} {pool : BufferPool}
variable {link next : Link Callback Session} {move : LinkMove Callback Session}
variable {stack nextStack taken put rest : List (LinkFrame Callback Session)}

/-- The pool lends the buffer that it has found or made. -/
def Serves (pool : BufferPool) : LinkMove Callback Session → Prop
  | .finish (.acquire least _) buffer => buffer = (pool.acquire least).2
  | _ => True

namespace Truthful

theorem fits_append (truthful : Truthful size log (taken ++ rest))
    (fits : ∀ frame ∈ put, Fits size frame) : ∀ frame ∈ put ++ rest, Fits size frame :=
  List.forall_mem_append.2 ⟨fits, (List.forall_mem_append.1 truthful.fits).2⟩

theorem same (truthful : Truthful size log (taken ++ rest)) (fits : ∀ frame ∈ put, Fits size frame)
    (loans : borrowed put = borrowed taken) (arrivals : pending put = pending taken) :
    Truthful size log (put ++ rest) where
  fits := truthful.fits_append fits
  loans := by rw [truthful.loans, borrowed_append, borrowed_append, loans]
  room := truthful.room
  intact := by
    have intact := truthful.intact
    rwa [pending_append, ← arrivals, ← pending_append] at intact

theorem told {frame : LinkFrame Callback Session} {request : Connection.Request Callback Session}
    {reply : Connection.Reply request} (truthful : Truthful size log ([frame] ++ rest))
    (shown : borrowed [frame] = ((Connection.returned? request reply).map Buffer.capacity).toList)
    (idle : pending [frame] = (Connection.resumed request reply).filterMap Connection.arrived?) :
    Truthful size log (told request reply ++ rest) := by
  refine truthful.same (fits_map (Connection.prompt_resumed size request reply)) ?_ ?_
  · rw [Link.told, borrowed_map, Connection.rooms_resumed, shown]
  · rw [Link.told, pending_map, idle]

theorem connectionStep {task : Connection.Task Callback Session}
    (config : link.connection.config.readBufferSize.toNat = size)
    (truthful : Truthful size log ([.task (.connection task)] ++ rest)) :
    Truthful size (record link log (.work (.connection task)))
      ((Connection.step link.connection task).2.map liftConnection ++ rest) := by
  have fits := fits_map (config ▸ Connection.prompt_step link.connection task)
  have loans : borrowed ((Connection.step link.connection task).2.map liftConnection) =
      borrowed [(.task (.connection task) : LinkFrame Callback Session)] := by
    rw [borrowed_map, Connection.rooms_step]
    rfl
  by_cases routing : ∃ arrival, task = .identify arrival
  · obtain ⟨arrival, rfl⟩ := routing
    have routed := Connection.arrived_identify link.connection arrival
    rw [← pending_map] at routed
    refine ⟨truthful.fits_append fits, ?_, truthful.room, ?_⟩
    · rw [borrowed_append, loans, ← borrowed_append]
      exact truthful.loans
    · have intact := truthful.intact
      rw [pending_append] at intact ⊢
      rw [routed]
      change List.Forall₂ _ _ (log.dispatched ++ [arrival] ++ ([] ++ pending rest))
      rw [List.append_assoc]
      exact intact
  · have other : ∀ arrival, task ≠ .identify arrival := fun arrival same => routing ⟨arrival, same⟩
    have unnoted : record link log (.work (.connection task)) = log := by
      cases task with
      | identify arrival => exact absurd rfl (other arrival)
      | _ => rfl
    rw [unnoted]
    refine truthful.same fits loans ?_
    rw [pending_map, Connection.arrived_step link.connection other]
    rfl

theorem udpStep {task : Udp.Task Nat} (truthful : Truthful size log ([.task (.udp task)] ++ rest)) :
    Truthful size log ((Udp.step link.udp task).2.flatMap liftUdp ++ rest) := by
  rcases put_of_udpStep link.udp task with ⟨⟨ticket, completion⟩, rfl⟩ | ⟨-, further, put⟩
  · exact truthful.same (List.forall_mem_singleton.2 trivial) rfl rfl
  · rw [put, flatMap_liftUdp]
    refine truthful.same (List.forall_mem_map.2 fun _ _ => trivial) ?_ ?_
    · rw [borrowed, filterMap_connectionFrame_udp]
      rfl
    · rw [pending, filterMap_connectionFrame_udp]
      rfl

/-- The system delivers a datagram, or there is none. -/
theorem received {buffer : Buffer} (lying : ∀ frame ∈ rest, lies frame = true)
    (truthful : Truthful size log ([.task (.endpoint (.receive buffer))] ++ rest)) :
    Truthful size (record link log (.work (.endpoint (.receive buffer))))
      (Link.told (.fill buffer) (link.udp.receive buffer).2 ++ rest) := by
  have empty : buffer.contents = [] := truthful.fits _ List.mem_cons_self
  have loans : log.loans = buffer.capacity :: borrowed rest := truthful.loans
  rcases received : link.udp.socket.receive with ⟨socket, kind | ⟨sender, datagram⟩⟩
  · obtain ⟨filled, result, eq, capacity, nothing⟩ := Udp.receive_of_error buffer received
    have unnoted : record link log (.work (.endpoint (.receive buffer))) = log := by
      simp only [record, received]
    rw [unnoted, eq]
    refine truthful.told ?_ ?_
    · change [buffer.capacity] = [filled.capacity]
      rw [capacity]
    · obtain cause | ⟨- | - | ⟨length, remote⟩⟩ := result
      · rfl
      · rfl
      · rfl
      · exact absurd rfl (nothing length remote)
  · obtain ⟨filled, eq, capacity, contents⟩ := Udp.receive_of_ok empty received
    have noted : record link log (.work (.endpoint (.receive buffer))) =
        { log with delivered := log.delivered ++ [⟨buffer.capacity, sender, datagram⟩] } := by
      simp only [record, received, loans, List.headD_cons]
    rw [noted, eq]
    have enough : size ≤ buffer.capacity :=
      truthful.room _ (loans ▸ List.mem_cons_self)
    refine ⟨truthful.fits_append (fits_map (Connection.prompt_resumed size _ _)), ?_,
      truthful.room, ?_⟩
    · change log.loans = filled.capacity :: borrowed rest
      rw [loans, capacity]
    · have intact := truthful.intact
      rw [pending_append, pending_eq_nil lying] at intact ⊢
      change List.Forall₂ _ log.delivered (log.dispatched ++ []) at intact
      rw [List.append_nil] at intact
      exact List.rel_append intact (.cons (intact_of_le enough contents) .nil)

theorem endpointStep {task : EndpointTask Callback} (lying : ∀ frame ∈ rest, lies frame = true)
    (truthful : Truthful size log ([.task (.endpoint task)] ++ rest)) :
    Truthful size (record link log (.work (.endpoint task)))
      ((Link.endpointStep link.udp task).2 ++ rest) := by
  cases task with
  | receive buffer => exact truthful.received lying
  | fill buffer =>
      simp only [Link.endpointStep]
      split
      · have empty : buffer.contents = [] := truthful.fits _ List.mem_cons_self
        exact truthful.same (List.forall_mem_singleton.2 empty) rfl rfl
      · exact truthful.told rfl rfl
  | isOpen =>
      simp only [Link.endpointStep]
      split
      · exact truthful.told rfl rfl
      · exact truthful.same (List.forall_mem_singleton.2 trivial) rfl rfl
  | isOutputOpen =>
      exact truthful.told rfl (Connection.arrived_resumed _ fun _ same => by cases same).symm
  | interest => exact truthful.told rfl rfl
  | write | shutdownOutput | close =>
      refine truthful.same (List.forall_mem_cons.2 ⟨trivial, List.forall_mem_singleton.2 ?_⟩) rfl rfl
      rfl

theorem begun {request : Connection.Request Callback Session}
    (truthful : Truthful size log ([.call request] ++ rest)) :
    Truthful size (record link log (.begin request)) ([.inside request] ++ rest) := by
  have offered : Offered size request := truthful.fits _ List.mem_cons_self
  have fits : ∀ frame ∈ [(.inside request : LinkFrame Callback Session)], Fits size frame :=
    List.forall_mem_singleton.2 offered
  cases request with
  | release buffer ending =>
      have loans : log.loans = buffer.capacity :: borrowed rest := truthful.loans
      refine ⟨truthful.fits_append fits, ?_, fun room member => ?_, truthful.intact⟩
      · change log.loans.tail = borrowed rest
        rw [loans, List.tail_cons]
      · exact truthful.room room (List.mem_of_mem_tail member)
  | _ => exact truthful.same fits rfl rfl

theorem finished {request : Connection.Request Callback Session} {reply : Connection.Reply request}
    (serves : Serves pool (.finish request reply))
    (truthful : Truthful size log ([.inside request] ++ rest)) :
    Truthful size (record link log (.finish request reply)) (Link.told request reply ++ rest) := by
  have offered : Offered size request := truthful.fits _ List.mem_cons_self
  have other : ∀ buffer, request ≠ .fill buffer := by
    rintro buffer rfl
    exact offered
  have silent := Connection.arrived_resumed reply other
  cases request with
  | fill buffer => exact offered.elim
  | acquire least direct =>
      obtain rfl : reply = (pool.acquire least).2 := serves
      obtain rfl : least = size := offered
      exact ⟨truthful.fits_append (fits_map (Connection.prompt_resumed least _ _)),
        congrArg _ truthful.loans,
        List.forall_mem_cons.2 ⟨BufferPool.le_capacity_acquire pool least, truthful.room⟩,
        truthful.intact⟩
  | _ => exact truthful.told rfl silent.symm

theorem exchange (exchange : Exchange (component Callback Session) link move taken next put)
    (config : link.connection.config.readBufferSize.toNat = size) (serves : Serves pool move)
    (lying : ∀ frame ∈ rest, lies frame = true) (truthful : Truthful size log (taken ++ rest)) :
    Truthful size (record link log move) (put ++ rest) := by
  cases exchange with
  | work task free =>
      cases task with
      | connection task => exact truthful.connectionStep config
      | udp task => exact truthful.udpStep
      | endpoint task => exact truthful.endpointStep lying
      | answer request reply =>
          have about : Connection.returned? request reply = none :=
            truthful.fits _ List.mem_cons_self
          refine truthful.told ?_ ?_
          · rw [about]
            cases request <;> first | rfl | cases about
          · have other : ∀ buffer, request ≠ .fill buffer := by
              rintro buffer rfl
              cases about
            rw [Connection.arrived_resumed reply other]
            rfl
  | «begin» request => exact truthful.begun
  | finish request reply => exact truthful.finished serves
  | enter method =>
      change Truthful size log ([] ++ rest) at truthful
      change Truthful size log (Link.begun method ++ rest)
      cases method with
      | connection method =>
          cases method <;>
            exact truthful.same (List.forall_mem_singleton.2 trivial) rfl rfl
      | writable | shutdownOutput | closeEndpoint =>
          exact truthful.same (List.forall_mem_singleton.2 trivial) rfl rfl

end Truthful

/-! ## Several threads and their pool -/

theorem pending_of_enterable (enterable : Enterable stack) (stacked : Stacked stack) :
    pending stack = [] := by
  refine pending_eq_nil fun frame member => ?_
  rcases stack with - | ⟨first, rest⟩
  · cases member
  · rcases List.mem_cons.1 member with rfl | deeper
    · exact lies_of_isInside _ (enterable _ rfl)
    · exact stacked frame deeper

theorem config_of_step (step : Step (component Callback Session) link stack move next nextStack) :
    next.connection.config = link.connection.config := by
  cases step with
  | work task =>
      cases task with
      | connection task => exact Connection.config_step link.connection task
      | udp | endpoint | answer => rfl
  | «begin» | finish | enter => rfl

/-- A link in the hands of several threads, a pool that others use as well, and what was noted. -/
structure Traffic (Callback Session : Type) where
  threads :
    Threads (Link Callback Session) (Task Callback Session) (Connection.Request Callback Session)
  pool : BufferPool
  /-- What was noted of each thread. -/
  logs : Nat → Logbook := fun _ => {}

namespace Traffic

/-- Some idle threads, and a pool that nobody has used. -/
def start (link : Link Callback Session) (count limit : Nat) : Traffic Callback Session where
  threads := ⟨link, List.replicate count []⟩
  pool := .new limit

/-- What a move of a thread makes of everything. -/
def after (traffic : Traffic Callback Session) (thread : Nat) (move : LinkMove Callback Session)
    (threads : Threads (Link Callback Session) (Task Callback Session)
      (Connection.Request Callback Session)) : Traffic Callback Session where
  threads := threads
  pool := Connection.attend traffic.pool move
  logs := Function.update traffic.logs thread
    (record traffic.threads.state (traffic.logs thread) move)

section After

variable (traffic : Traffic Callback Session) (thread : Nat) (move : LinkMove Callback Session)
variable (threads :
  Threads (Link Callback Session) (Task Callback Session) (Connection.Request Callback Session))

theorem logs_after : (traffic.after thread move threads).logs thread =
    record traffic.threads.state (traffic.logs thread) move :=
  Function.update_self _ _ _

theorem logs_after_of_ne {other : Nat} (different : other ≠ thread) :
    (traffic.after thread move threads).logs other = traffic.logs other :=
  Function.update_of_ne different _ _

end After

def withPool (traffic : Traffic Callback Session) (pool : BufferPool) : Traffic Callback Session :=
  { traffic with pool := pool }

def adjust (traffic : Traffic Callback Session) (intake : Udp.Intake) : Traffic Callback Session :=
  { traffic with
    threads := ⟨traffic.threads.state.adjust intake, traffic.threads.frames⟩ }

/--
What may come next: a thread makes a move, somebody else borrows from the pool or gives it a buffer,
whether it came from there or not, or something happens to the socket.
-/
inductive Next (traffic : Traffic Callback Session) : Traffic Callback Session → Prop where
  | move {thread : Nat} {move : LinkMove Callback Session}
      {threads : Threads (Link Callback Session) (Task Callback Session)
        (Connection.Request Callback Session)} :
      ThreadStep (component Callback Session) traffic.threads thread move threads →
        Serves traffic.pool move → Next traffic (traffic.after thread move threads)
  | lend (least : Nat) : Next traffic (traffic.withPool (traffic.pool.acquire least).1)
  | restore (buffer : Buffer) : Next traffic (traffic.withPool (traffic.pool.release buffer))
  | adjust (intake : Udp.Intake) : Next traffic (traffic.adjust intake)

/-- What was noted of every thread is true, and what it routes is what was delivered. -/
structure Orderly (size : Nat) (traffic : Traffic Callback Session) : Prop where
  config : traffic.threads.state.connection.config.readBufferSize.toNat = size
  each : ∀ thread stack, traffic.threads.frames[thread]? = some stack →
    Stacked stack ∧ Truthful size (traffic.logs thread) stack

variable {traffic later : Traffic Callback Session}

theorem orderly_start (link : Link Callback Session) (count limit : Nat) :
    Orderly link.connection.config.readBufferSize.toNat (start link count limit) := by
  refine ⟨rfl, fun thread stack found => ?_⟩
  obtain rfl : stack = [] := List.eq_of_mem_replicate (List.mem_of_getElem? found)
  exact ⟨stacked_nil, fun frame member => (nomatch member), rfl, fun room member => (nomatch member),
    .nil⟩

theorem Orderly.onward (orderly : Orderly size traffic) (next : Next traffic later) :
    Orderly size later := by
  cases next with
  | lend | restore | adjust => exact ⟨orderly.config, orderly.each⟩
  | @move thread move threads threadStep serves =>
      cases threadStep with
      | move stack nextStack state found step =>
          obtain ⟨stacked, truthful⟩ := orderly.each thread stack found
          have config := orderly.config
          rw [← config_of_step step] at config
          refine ⟨config, fun other otherStack foundOther => ?_⟩
          rw [after, List.getElem?_set] at foundOther
          by_cases same : thread = other
          · subst same
            obtain ⟨-, rfl⟩ : _ ∧ nextStack = otherStack := by simpa using foundOther
            rw [logs_after]
            refine ⟨stacked.step step, ?_⟩
            obtain ⟨taken, put, rest, rfl, rfl, exchange, lying⟩ :=
              step.exchange_of_tail lies_of_isInside stacked
            exact truthful.exchange exchange orderly.config serves lying
          · rw [if_neg same] at foundOther
            rw [logs_after_of_ne _ _ _ _ (Ne.symm same)]
            exact orderly.each other otherStack foundOther

theorem orderly_of_reached {count limit : Nat} {link : Link Callback Session}
    (reached : Relation.ReflTransGen Next (start link count limit) traffic) :
    Orderly link.connection.config.readBufferSize.toNat traffic := by
  induction reached with
  | refl => exact orderly_start link count limit
  | tail _ next ih => exact ih.onward next

/--
Each thread routes just the datagrams that were delivered to it, in their order, and each of them
intact, whatever buffers the pool has been given and whoever else uses it, whatever arrives at the
socket, and however many read loops there are, inside each other and on other threads. When a thread
may be entered, it has routed all of them.
-/
theorem datagrams_intact {count limit : Nat} {link : Link Callback Session}
    (reached : Relation.ReflTransGen Next (start link count limit) traffic) (thread : Nat)
    (stack : List (LinkFrame Callback Session))
    (found : traffic.threads.frames[thread]? = some stack) :
    List.Forall₂ (Intact link.connection.config.readBufferSize.toNat)
        (traffic.logs thread).delivered ((traffic.logs thread).dispatched ++ pending stack) ∧
      (Enterable stack → pending stack = []) := by
  obtain ⟨stacked, truthful⟩ := (orderly_of_reached reached).each thread stack found
  exact ⟨truthful.intact, fun enterable => pending_of_enterable enterable stacked⟩

/-! ## Traffic that follows a script -/

abbrev LinkChoice (Callback Session : Type) :=
  Choice (Connection.Request Callback Session) (Method Callback) Connection.Reply

/-- What a script may have happen next. -/
inductive Cue (Callback Session : Type) where
  | choose (thread : Nat) (choice : LinkChoice Callback Session)
  | restore (buffer : Buffer)
  | adjust (intake : Udp.Intake)

/-- A choice for which the pool lends a buffer, should one be asked for. -/
def lending (pool : BufferPool) : LinkChoice Callback Session → LinkChoice Callback Session
  | .finish reply => .finish fun
      | .acquire least _ => (pool.acquire least).2
      | request => reply request
  | choice => choice

theorem serves_of_choose {choice : LinkChoice Callback Session}
    (chosen : choose (component Callback Session) link stack (lending pool choice) =
      some (move, next, nextStack)) : Serves pool move := by
  unfold choose at chosen
  split at chosen
  · split at chosen <;> cases chosen
    trivial
  · cases chosen
    trivial
  · rename_i request rest reply same
    cases choice with
    | finish given =>
        cases same
        cases chosen
        cases request <;> first | rfl | trivial
    | proceed | enter => cases same
  · cases chosen
    trivial
  · cases chosen
    trivial
  · cases chosen

/-- What a cue makes of everything; a choice that is not open is passed over. -/
def heed (traffic : Traffic Callback Session) : Cue Callback Session → Traffic Callback Session
  | .choose thread choice =>
      match traffic.threads.frames[thread]?.bind fun stack =>
          choose (component Callback Session) traffic.threads.state stack
            (lending traffic.pool choice) with
      | some (move, link, stack) =>
          traffic.after thread move ⟨link, traffic.threads.frames.set thread stack⟩
      | none => traffic
  | .restore buffer => traffic.withPool (traffic.pool.release buffer)
  | .adjust intake => traffic.adjust intake

theorem reached_heed (traffic : Traffic Callback Session) (cue : Cue Callback Session) :
    Relation.ReflTransGen Next traffic (traffic.heed cue) := by
  cases cue with
  | restore buffer => exact .single (.restore buffer)
  | adjust intake => exact .single (.adjust intake)
  | choose thread choice =>
      simp only [heed]
      split
      · rename_i move link stack chosen
        obtain ⟨before, found, chosen⟩ := Option.bind_eq_some_iff.1 chosen
        exact .single (.move (.move _ _ _ before _ _ found (step_of_choose chosen))
          (serves_of_choose chosen))
      · exact .refl

theorem reached_foldl (traffic : Traffic Callback Session) (script : List (Cue Callback Session)) :
    Relation.ReflTransGen Next traffic (script.foldl heed traffic) := by
  induction script generalizing traffic with
  | nil => exact .refl
  | cons cue script ih => exact (reached_heed traffic cue).trans (ih (traffic.heed cue))

/-- A link with the usual configuration. -/
def usual : Link Nat Nat where
  connection := {}
  udp.socket.address := default

/--
The pool is given a large buffer that is not its own. One thread receives two short datagrams in it.
Meanwhile another one receives a datagram that is longer than the buffer that the pool makes for it.
-/
def sharedReading : List (Cue Nat Nat) :=
  List.flatten
    [[.restore ⟨[9, 9, 9], 2000⟩,
      .adjust ⟨⟨default, [(default, [1, 2, 3]), (default, List.replicate 1600 7), (default, [4])],
        [], [], [], [], true, true, true⟩, true⟩,
      .choose 0 (.enter (.connection .fillable)), .choose 1 (.enter (.connection .fillable))],
      List.replicate 3 (.choose 0 .proceed), [.choose 0 (.finish (Connection.answers .empty))],
      List.replicate 3 (.choose 1 .proceed), [.choose 1 (.finish (Connection.answers .empty))],
      List.replicate 2 (.choose 0 .proceed), List.replicate 5 (.choose 1 .proceed),
      List.replicate 9 (.choose 0 .proceed)]

theorem routed_in_sharedReading :
    let traffic := sharedReading.foldl heed (start usual 2 64)
    (traffic.logs 0).dispatched.map Arrival.datagram = [[1, 2, 3], [4]] ∧
      (traffic.logs 1).dispatched.map Arrival.datagram = [List.replicate 1500 7] := by
  intro traffic
  have reached : Relation.ReflTransGen Next (start usual 2 64) traffic := reached_foldl _ _
  have routed (thread : Nat) (idle : (traffic.threads.frames[thread]?).map pending = some []) :
      (traffic.logs thread).dispatched.map Arrival.datagram =
        (traffic.logs thread).delivered.map Delivery.received := by
    obtain ⟨stack, found, idle⟩ := Option.map_eq_some_iff.1 idle
    have intact := (datagrams_intact reached thread stack found).1
    rw [idle, List.append_nil] at intact
    exact map_datagram_of_intact intact
  exact ⟨(routed 0 (by decide +kernel)).trans (by decide +kernel),
    (routed 1 (by decide +kernel)).trans (by decide +kernel)⟩

end Traffic

end DatagramMux.Link
