import DatagramMux.Proofs.Connection.Lifecycle
import DatagramMux.Proofs.Machine.Projection

/-!
# How datagrams are routed

A router reads the identifier of one datagram after the other, hands the datagram to the session
that is registered under it, and asks the factory for a session where there is none. A connection
whose collaborators do not call back does the same, although it reads the datagrams in many calls,
each of which ends when the endpoint has nothing more or something fails, and routes each of them in
many steps. While a datagram is being routed, the frame on top of the stack tells what remains to be
done with it.
-/

namespace DatagramMux.Connection

open Component

variable {Callback Session : Type}

/-! ## The router -/

/-- What a collaborator is called for while datagrams are routed. -/
inductive Call (Session : Type) where
  /-- The factory: create a session for a datagram. -/
  | create (remote : SocketAddress) (bytes : Bytes)
  | assign (session : Session) (identifier : ConnectionId)
  | process (session : Session) (remote : SocketAddress) (bytes : Bytes)
  | close (session : Session)
  deriving DecidableEq

/-- A datagram as the endpoint delivers it, with the length that it tells. -/
structure Datagram where
  remote : SocketAddress
  length : Nat
  bytes : Bytes
  deriving DecidableEq

/-- A factory whose answer depends on all that the collaborators were called for, up to this call. -/
abbrev Factory (Session : Type) := List (Call Session) → Except MuxError (Option Session)

/-- What a router remembers, and what it has called its collaborators for. -/
structure Router (Session : Type) where
  registry : Registry Session
  calls : List (Call Session)
  received : UInt64
  receivedBytes : UInt64
  dropped : UInt64
  created : UInt64
  declined : UInt64
  sessionsClosed : UInt64

namespace Router

def say (router : Router Session) (call : Call Session) : Router Session :=
  { router with calls := router.calls ++ [call] }

/-- Registers a session under an identifier that is not registered. -/
def enroll (router : Router Session) (identifier : ConnectionId) (session : Session) :
    Router Session :=
  match router.registry.insert? identifier session with
  | some registry => { router with registry := registry, created := router.created + 1 }
  | none => router

/-- Heeds the factory's answer for an identifier. -/
def heed (router : Router Session) (identifier : ConnectionId) :
    Except MuxError (Option Session) → Router Session
  | .error _ => router
  | .ok none => { router with declined := router.declined + 1 }
  | .ok (some session) => (router.say (.assign session identifier)).enroll identifier session

/-- Asks the factory for a session. -/
def ask (factory : Factory Session) (router : Router Session) (identifier : ConnectionId)
    (remote : SocketAddress) (bytes : Bytes) : Router Session :=
  let asked := router.say (.create remote bytes)
  asked.heed identifier (factory asked.calls)

def dispatch (factory : Factory Session) (router : Router Session) (remote : SocketAddress)
    (bytes : Bytes) : Option ConnectionId → Router Session
  | none => { router with dropped := router.dropped + 1 }
  | some identifier =>
      match router.registry.lookup? identifier with
      | some session => router.say (.process session remote bytes)
      | none => router.ask factory identifier remote bytes

/-- Routes a datagram; the identifiers in short headers have a given length. -/
def route (localLength : Nat) (factory : Factory Session) (router : Router Session)
    (datagram : Datagram) : Router Session :=
  dispatch factory
    { router with
      received := router.received + 1
      receivedBytes := router.receivedBytes + datagram.length.toUInt64 }
    datagram.remote datagram.bytes (ConnectionId.ofPacket? datagram.bytes localLength)

end Router

/-! ## The connection among its collaborators -/

/-- What the endpoint leaves in a buffer that it is asked to fill, and what it tells about it. -/
abbrev Filling := Buffer × Except IoError Fill

def datagram? : Filling → Option Datagram
  | (buffer, .ok (.datagram length remote)) => some ⟨remote, length, buffer.contents.take length⟩
  | _ => none

/-- The filling that the endpoint returns in a move. -/
def filling? : ConnectionMove Callback Session → Option Filling
  | .finish (.fill _) filling => some filling
  | _ => none

/-- What a collaborator is called for in a move. -/
def call? : ConnectionMove Callback Session → Option (Call Session)
  | .begin (.create arrival _) => some (.create arrival.remote arrival.datagram)
  | .begin (.assign session identifier _) => some (.assign session identifier)
  | .begin (.process session arrival _) => some (.process session arrival.remote arrival.datagram)
  | .begin (.discard session _) | .begin (.sweep (.close session _ _ _)) => some (.close session)
  | _ => none

/-- Collaborators that answer by what has happened before; the endpoint fills buffers as it likes. -/
structure Collaborators (Callback Session : Type) where
  factory : Factory Session
  others : List (ConnectionMove Callback Session) →
    (request : Request Callback Session) → Reply request

namespace Collaborators

def answer (collaborators : Collaborators Callback Session)
    (past : List (ConnectionMove Callback Session)) :
    (request : Request Callback Session) → Reply request
  | .create _ _ => collaborators.factory (past.filterMap call?)
  | request => collaborators.others past request

/-- The moves that the collaborators allow; none of them calls back. -/
inductive Allows (collaborators : Collaborators Callback Session)
    (past : List (ConnectionMove Callback Session)) : ConnectionMove Callback Session → Prop where
  | work (task : Task Callback Session) : Allows collaborators past (.work task)
  | begin (request : Request Callback Session) : Allows collaborators past (.begin request)
  | fill (buffer : Buffer) (filling : Filling) :
      Allows collaborators past (.finish (.fill buffer) filling)
  | answer (request : Request Callback Session) :
      Allows collaborators past (.finish request (collaborators.answer past request))

end Collaborators

/-- The read loop is called again and again, each time when it has come to an end. -/
inductive Reading (collaborators : Collaborators Callback Session)
    (first : Connection Callback Session) :
    List (ConnectionMove Callback Session) → Connection Callback Session →
      List (ConnectionFrame Callback Session) → Prop where
  | start : Reading collaborators first [] first []
  | call {moves : List (ConnectionMove Callback Session)}
      {connection : Connection Callback Session} :
      Reading collaborators first moves connection [] →
        Reading collaborators first (moves ++ [.enter .fillable]) connection
          ((component Callback Session).body .fillable)
  | move {moves : List (ConnectionMove Callback Session)}
      {connection next : Connection Callback Session} {move : ConnectionMove Callback Session}
      {stack nextStack : List (ConnectionFrame Callback Session)} :
      Reading collaborators first moves connection stack →
        Step (component Callback Session) connection stack move next nextStack →
          collaborators.Allows moves move →
            Reading collaborators first (moves ++ [move]) next nextStack

/-- A connection seen as a router that has made some calls. -/
def router (connection : Connection Callback Session) (calls : List (Call Session)) :
    Router Session where
  registry := connection.registry
  calls := calls
  received := connection.received
  receivedBytes := connection.receivedBytes
  dropped := connection.dropped
  created := connection.created
  declined := connection.declined
  sessionsClosed := connection.sessionsClosed

/-! ## What remains to be done with a datagram -/

/-- What holds of the frame of the read loop that is on top of the stack. -/
def Reads (connection : Connection Callback Session) : ConnectionFrame Callback Session → Prop
  | .call (.create _ identifier) | .inside (.create _ identifier)
  | .call (.assign _ identifier _) | .inside (.assign _ identifier _)
  | .task (.vet _ identifier _) | .task (.register _ identifier _) =>
      identifier ∉ connection.registry.identifiers
  | .task .borrow | .task (.countDatagram _ _) | .task (.countBytes _ _) | .task (.identify _)
  | .task (.countUnidentified _) | .task (.route _ _) | .task (.countDeclined _)
  | .task (.confirm _ _) | .task (.countCreated _) => True
  | .call (.acquire _ _) | .call (.fill _) | .call (.process _ _ _) | .call (.release _ _)
  | .call .interest | .call .shutdownOutput | .call .isOpen => True
  | .inside (.acquire _ _) | .inside (.fill _) | .inside (.process _ _ _)
  | .inside (.release _ _) | .inside .interest | .inside .shutdownOutput | .inside .isOpen => True
  | _ => False

/-- What a frame will make of the router, up to the next datagram. -/
def outlook (localLength : Nat) (factory : Factory Session) (router : Router Session) :
    ConnectionFrame Callback Session → Router Session
  | .task (.countDatagram arrival length) =>
      router.route localLength factory ⟨arrival.remote, length, arrival.datagram⟩
  | .task (.countBytes arrival length) =>
      Router.dispatch factory
        { router with receivedBytes := router.receivedBytes + length.toUInt64 }
        arrival.remote arrival.datagram (ConnectionId.ofPacket? arrival.datagram localLength)
  | .task (.identify arrival) =>
      router.dispatch factory arrival.remote arrival.datagram
        (ConnectionId.ofPacket? arrival.datagram localLength)
  | .task (.countUnidentified _) => { router with dropped := router.dropped + 1 }
  | .task (.route arrival identifier) =>
      router.dispatch factory arrival.remote arrival.datagram (some identifier)
  | .call (.process session arrival _) =>
      router.say (.process session arrival.remote arrival.datagram)
  | .call (.create arrival identifier) =>
      router.ask factory identifier arrival.remote arrival.datagram
  | .inside (.create _ identifier) => router.heed identifier (factory router.calls)
  | .task (.countDeclined _) => { router with declined := router.declined + 1 }
  | .call (.assign session identifier _) =>
      (router.say (.assign session identifier)).enroll identifier session
  | .inside (.assign session identifier _) | .task (.vet session identifier _)
  | .task (.register session identifier _) => router.enroll identifier session
  | .task (.confirm _ _) | .task (.countCreated _) => { router with created := router.created + 1 }
  | _ => router

/-- What the frames that are left of the read loop will make of the router. -/
def prospect (localLength : Nat) (factory : Factory Session) (router : Router Session) :
    List (ConnectionFrame Callback Session) → Router Session
  | [] => router
  | frame :: _ => outlook localLength factory router frame

/-- What is left when the read loop has come to its end makes nothing of the router. -/
theorem prospect_letGo {localLength : Nat} {factory : Factory Session} {router : Router Session}
    (frames : List (ConnectionFrame Callback Session)) :
    prospect localLength factory router (frames ++ [.task .letGo]) =
      prospect localLength factory router frames := by
  cases frames <;> rfl

/-- The frame of the read loop, of which there is at most one, is as it should be. -/
structure Looping (connection : Connection Callback Session)
    (frames : List (ConnectionFrame Callback Session)) : Prop where
  single : frames.length ≤ 1
  reads : ∀ frame ∈ frames, Reads connection frame

theorem Looping.nil (connection : Connection Callback Session) : Looping connection [] :=
  ⟨Nat.zero_le 1, fun _ member => (nomatch member)⟩

theorem Looping.singleton {connection : Connection Callback Session}
    {frame : ConnectionFrame Callback Session} (reads : Reads connection frame) :
    Looping connection [frame] :=
  ⟨le_rfl, fun _ member => List.mem_singleton.1 member ▸ reads⟩

section Exchange

variable (localLength : Nat) {past : List (ConnectionMove Callback Session)}
variable {connection : Connection Callback Session}

/-- A task of the read loop brings about what it promised. -/
theorem Reads.work (factory : Factory Session) {task : Task Callback Session}
    (reads : Reads connection (.task task)) (alive : connection.closed = false)
    (calls : List (Call Session)) :
    Looping (step connection task).1 (step connection task).2 ∧
      (step connection task).1.closed = false ∧
        prospect connection.config.localIdLength.toNat factory
            (router (step connection task).1 calls) (step connection task).2 =
          outlook connection.config.localIdLength.toNat factory (router connection calls)
            (.task task) := by
  cases task with
  | borrow | countDatagram | countBytes | countUnidentified | countDeclined | countCreated =>
      exact ⟨.singleton trivial, alive, rfl⟩
  | identify arrival =>
      simp only [step, outlook]
      split <;> rename_i read <;> rw [read] <;> exact ⟨.singleton trivial, alive, rfl⟩
  | route arrival identifier =>
      cases found : connection.registry.lookup? identifier with
      | some session =>
          simp only [step, outlook, Router.dispatch, router, found]
          exact ⟨.singleton trivial, alive, rfl⟩
      | none =>
          simp only [step, outlook, Router.dispatch, router, found]
          exact ⟨.singleton (Registry.lookup?_eq_none_iff.1 found), alive, rfl⟩
  | vet session identifier buffer =>
      rw [step, if_neg (by simp [alive])]
      exact ⟨.singleton reads, alive, rfl⟩
  | register session identifier buffer =>
      cases inserted : connection.registry.insert? identifier session with
      | some registry =>
          simp only [step, outlook, Router.enroll, router, inserted]
          exact ⟨.singleton trivial, alive, rfl⟩
      | none => exact absurd (Registry.insert?_eq_none_iff.1 inserted) reads
  | confirm identifier buffer =>
      rw [step, if_neg (by simp [alive])]
      exact ⟨.singleton trivial, alive, rfl⟩
  | _ => cases reads

theorem Reads.begin (factory : Factory Session) {request : Request Callback Session}
    (reads : Reads connection (.call request)) (calls : List (Call Session)) :
    Reads connection (.inside request) ∧
      outlook localLength factory (router connection (calls ++ (call? (.begin request)).toList))
          (.inside request) =
        outlook localLength factory (router connection calls) (.call request) := by
  cases request with
  | create | assign => exact ⟨reads, rfl⟩
  | process => exact ⟨trivial, rfl⟩
  | acquire | fill | release | interest | shutdownOutput | isOpen =>
      exact ⟨trivial, congrArg (router connection) (List.append_nil calls)⟩
  | _ => cases reads

/-- What the factory answers is heeded. -/
theorem Reads.heed (factory : Factory Session) {arrival : Arrival} {identifier : ConnectionId}
    (reads : Reads connection (.inside (.create arrival identifier)))
    (answer : Except MuxError (Option Session)) (calls : List (Call Session)) :
    let frames : List (ConnectionFrame Callback Session) :=
      resumed (.create arrival identifier) answer
    Looping connection frames ∧
      prospect localLength factory (router connection calls) frames =
        (router connection calls).heed identifier answer := by
  obtain error | - | session := answer
  · exact ⟨.singleton trivial, rfl⟩
  · exact ⟨.singleton trivial, rfl⟩
  · exact ⟨.singleton reads, rfl⟩

/-- How a call of the read loop returns; a filling of the buffer brings the next datagram. -/
theorem Reads.finish {collaborators : Collaborators Callback Session}
    {request : Request Callback Session} {reply : Reply request}
    (reads : Reads connection (.inside request))
    (allowed : collaborators.Allows past (.finish request reply)) :
    Looping connection (resumed request reply) ∧
      prospect localLength collaborators.factory (router connection (past.filterMap call?))
          (resumed request reply) =
        ((filling? (.finish request reply)).bind datagram?).toList.foldl
          (Router.route localLength collaborators.factory)
          (outlook localLength collaborators.factory (router connection (past.filterMap call?))
            (.inside request)) := by
  cases request with
  | acquire => exact ⟨.singleton trivial, rfl⟩
  | fill buffer =>
      obtain ⟨buffer, cause | ⟨- | - | -⟩⟩ := reply <;> exact ⟨.singleton trivial, rfl⟩
  | create arrival identifier =>
      cases allowed
      exact reads.heed _ _ (collaborators.factory (past.filterMap call?)) _
  | assign session identifier buffer => exact ⟨.singleton reads, rfl⟩
  | process session arrival identifier =>
      obtain error | consumed := reply <;> exact ⟨.singleton trivial, rfl⟩
  | release buffer ending => cases ending <;> exact ⟨.singleton trivial, rfl⟩
  | isOpen =>
      obtain - | - := reply
      · exact ⟨.nil connection, rfl⟩
      · exact ⟨.singleton trivial, rfl⟩
  | interest | shutdownOutput => exact ⟨.nil connection, rfl⟩
  | _ => cases reads

end Exchange

/-! ## Whole readings -/

/-- How the stack looks while the read loop is called again and again. -/
inductive Ordered (connection : Connection Callback Session) :
    List (ConnectionFrame Callback Session) → Prop where
  | idle : Ordered connection []
  | begun : Ordered connection [.task (.hold .fillable)]
  | looping {frames : List (ConnectionFrame Callback Session)} :
      Looping connection frames → Ordered connection (frames ++ [.task .letGo])

/-- A connection that is open and ordered, and what will have become of it at the next datagram. -/
structure Routed (collaborators : Collaborators Callback Session)
    (first : Connection Callback Session) (moves : List (ConnectionMove Callback Session))
    (connection : Connection Callback Session)
    (stack : List (ConnectionFrame Callback Session)) : Prop where
  alive : connection.closed = false
  config : connection.config = first.config
  ordered : Ordered connection stack
  prospect : prospect first.config.localIdLength.toNat collaborators.factory
      (router connection (moves.filterMap call?)) stack =
    ((moves.filterMap filling?).filterMap datagram?).foldl
      (Router.route first.config.localIdLength.toNat collaborators.factory) (router first [])

theorem Ordered.one {connection : Connection Callback Session}
    {frame : ConnectionFrame Callback Session} (reads : Reads connection frame) :
    Ordered connection [frame, .task .letGo] :=
  .looping (.singleton reads)

namespace Routed

variable {collaborators : Collaborators Callback Session}
variable {first connection next : Connection Callback Session}
variable {moves : List (ConnectionMove Callback Session)} {move : ConnectionMove Callback Session}
variable {stack nextStack : List (ConnectionFrame Callback Session)}

theorem onward (routed : Routed collaborators first moves connection stack)
    (alive : next.closed = false) (config : next.config = connection.config)
    (ordered : Ordered next nextStack)
    (kept : Connection.prospect first.config.localIdLength.toNat collaborators.factory
        (router next (moves.filterMap call? ++ (call? move).toList)) nextStack =
      ((filling? move).bind datagram?).toList.foldl
        (Router.route first.config.localIdLength.toNat collaborators.factory)
        (Connection.prospect first.config.localIdLength.toNat collaborators.factory
          (router connection (moves.filterMap call?)) stack)) :
    Routed collaborators first (moves ++ [move]) next nextStack := by
  refine ⟨alive, config.trans routed.config, ordered, ?_⟩
  have delivered : ((filling? move).toList).filterMap datagram? =
      ((filling? move).bind datagram?).toList := by
    cases filling? move with
    | none => rfl
    | some filling => exact filterMap_singleton datagram? filling
  rw [List.filterMap_append, List.filterMap_append, filterMap_singleton, filterMap_singleton,
    List.filterMap_append, List.foldl_append, ← routed.prospect, kept, delivered]

theorem silently (routed : Routed collaborators first moves connection stack)
    (alive : next.closed = false) (config : next.config = connection.config)
    (ordered : Ordered next nextStack) (silent : call? move = none)
    (kept : Connection.prospect first.config.localIdLength.toNat collaborators.factory
        (router next (moves.filterMap call?)) nextStack =
      ((filling? move).bind datagram?).toList.foldl
        (Router.route first.config.localIdLength.toNat collaborators.factory)
        (Connection.prospect first.config.localIdLength.toNat collaborators.factory
          (router connection (moves.filterMap call?)) stack)) :
    Routed collaborators first (moves ++ [move]) next nextStack := by
  refine routed.onward alive config ordered ?_
  rw [silent, Option.toList_none, List.append_nil]
  exact kept

theorem step (routed : Routed collaborators first moves connection stack)
    (step : Step (component Callback Session) connection stack move next nextStack)
    (allowed : collaborators.Allows moves move) :
    Routed collaborators first (moves ++ [move]) next nextStack := by
  have ordered := routed.ordered
  cases ordered with
  | idle =>
      cases step
      cases allowed
  | begun =>
      cases step with
      | work task rest free =>
          exact routed.silently routed.alive rfl (.one trivial) rfl rfl
      | enter => cases allowed
  | @looping frames looping =>
      rcases frames with - | ⟨frame, - | ⟨second, frames⟩⟩
      · cases step with
        | work task rest free => exact routed.silently routed.alive rfl .idle rfl rfl
        | enter => cases allowed
      -- What the frame promises is the same before and after, but for a datagram that the move delivers.
      · have reads := looping.reads frame (List.mem_singleton_self frame)
        cases step with
        | work task rest free =>
            obtain ⟨later, alive, kept⟩ :=
              reads.work collaborators.factory routed.alive (moves.filterMap call?)
            rw [routed.config] at kept
            exact routed.silently alive (config_step connection task) (.looping later) rfl
              ((prospect_letGo _).trans kept)
        | «begin» request rest =>
            obtain ⟨later, kept⟩ := reads.begin _ _ (moves.filterMap call?)
            exact routed.onward routed.alive rfl (.one later) kept
        | finish request reply rest =>
            obtain ⟨later, kept⟩ := reads.finish _ allowed
            exact routed.silently routed.alive rfl (.looping later) rfl
              ((prospect_letGo _).trans kept)
        | enter => cases allowed
      · have single := looping.single
        simp at single

theorem of_reading (reading : Reading collaborators first moves connection stack)
    (alive : first.closed = false) : Routed collaborators first moves connection stack := by
  induction reading with
  | start => exact ⟨alive, rfl, .idle, rfl⟩
  | call _ ih => exact ih.silently ih.alive rfl .begun rfl rfl
  | move _ step allowed ih => exact ih.step step allowed

end Routed

/-! ## Every datagram is read -/

/-- How many moves at most a frame of the read loop is away from the next filling, or from the end. -/
def distance : ConnectionFrame Callback Session → Nat
  | .task .borrow => 4
  | .call (.acquire _ _) => 3
  | .inside (.acquire _ _) => 2
  | .call (.fill _) => 1
  | .task (.countDatagram _ _) => 13
  | .task (.countBytes _ _) => 12
  | .task (.identify _) => 11
  | .task (.route _ _) => 10
  | .call (.create _ _) => 9
  | .inside (.create _ _) => 8
  | .call (.assign _ _ _) => 7
  | .inside (.assign _ _ _) => 6
  | .task (.vet _ _ _) => 5
  | .task (.register _ _ _) => 4
  | .task (.confirm _ _) => 3
  | .task (.countCreated _) | .task (.countUnidentified _) | .task (.countDeclined _) => 2
  | .call (.process _ _ _) => 8
  | .inside (.process _ _ _) => 7
  | .call (.release _ _) => 6
  | .inside (.release _ _) => 5
  | .call .isOpen => 4
  | .inside .isOpen => 3
  | .call .interest | .call .shutdownOutput => 2
  | .inside .interest | .inside .shutdownOutput => 1
  | _ => 0

/-- Whether frames are nearer to the next filling, or to the end, than a frame is. -/
def nearer (frame : ConnectionFrame Callback Session)
    (others : List (ConnectionFrame Callback Session)) : Bool :=
  others.all fun other => distance other < distance frame

theorem nearer_work {connection : Connection Callback Session} {task : Task Callback Session}
    (reads : Reads connection (.task task)) : nearer (.task task) (step connection task).2 = true := by
  cases task with
  | borrow | countDatagram | countBytes | countUnidentified | countDeclined | countCreated => rfl
  | identify | route | vet | register | confirm =>
      simp only [step]
      split <;> rfl
  | _ => cases reads

theorem nearer_begin {connection : Connection Callback Session}
    {request : Request Callback Session} (reads : Reads connection (.call request)) :
    nearer (.call request) [(.inside request : ConnectionFrame Callback Session)] = true := by
  cases request <;> first | rfl | cases reads

theorem nearer_finish {connection : Connection Callback Session}
    {request : Request Callback Session} (reads : Reads connection (.inside request))
    (busy : ∀ buffer, request ≠ .fill buffer) (reply : Reply request) :
    nearer (.inside request) (resumed request reply) = true := by
  cases request with
  | fill buffer => exact absurd rfl (busy buffer)
  | acquire | assign | interest | shutdownOutput => rfl
  | create => obtain error | - | session := reply <;> rfl
  | process => obtain error | consumed := reply <;> rfl
  | release buffer ending => cases ending <;> rfl
  | isOpen => obtain - | - := reply <;> rfl
  | _ => cases reads

section Progress

variable {collaborators : Collaborators Callback Session}
variable {first connection : Connection Callback Session}
variable {moves : List (ConnectionMove Callback Session)}
variable {stack rest : List (ConnectionFrame Callback Session)}

namespace Reading

theorem work {task : Task Callback Session}
    (reading : Reading collaborators first moves connection (.task task :: rest)) :
    Reading collaborators first (moves ++ [.work task]) (step connection task).1
      ((step connection task).2 ++ rest) :=
  .move reading (.work connection task rest rfl) (.work task)

theorem begin {request : Request Callback Session}
    (reading : Reading collaborators first moves connection (.call request :: rest)) :
    Reading collaborators first (moves ++ [.begin request]) connection (.inside request :: rest) :=
  .move reading (.begin connection request rest) (.begin request)

theorem finish {request : Request Callback Session}
    (reading : Reading collaborators first moves connection (.inside request :: rest)) :
    Reading collaborators first (moves ++ [.finish request (collaborators.answer moves request)])
      connection (resumed request (collaborators.answer moves request) ++ rest) :=
  .move reading (.finish connection request _ rest) (.answer request)

theorem fill {buffer : Buffer} (filling : Filling)
    (reading : Reading collaborators first moves connection (.inside (.fill buffer) :: rest)) :
    Reading collaborators first (moves ++ [.finish (.fill buffer) filling]) connection
      (resumed (.fill buffer) filling ++ rest) :=
  have step : Step (component Callback Session) connection (.inside (.fill buffer) :: rest)
      (.finish (.fill buffer) filling) connection (resumed (.fill buffer) filling ++ rest) :=
    .finish connection (.fill buffer) _ rest
  .move reading step (.fill buffer filling)

end Reading

/-- The read loop always gets on unless it waits for the endpoint to fill a buffer. -/
theorem exists_nearer {frame : ConnectionFrame Callback Session}
    (reads : Reads connection frame) (busy : ∀ buffer, frame ≠ .inside (.fill buffer))
    (alive : connection.closed = false) (rest : List (ConnectionFrame Callback Session)) :
    ∃ move next put, Step (component Callback Session) connection (frame :: rest) move next
      (put ++ rest) ∧ collaborators.Allows moves move ∧ filling? move = none ∧ Looping next put ∧
        nearer frame put = true := by
  cases frame with
  | task task =>
      exact ⟨_, _, _, .work connection task rest rfl, .work task, rfl,
        (reads.work collaborators.factory alive []).1, nearer_work reads⟩
  | call request =>
      exact ⟨_, _, [_], .begin connection request rest, .begin request, rfl,
        .singleton (reads.begin 0 collaborators.factory []).1,
        nearer_begin reads⟩
  | inside request =>
      have other : ∀ buffer, request ≠ .fill buffer := fun buffer same => busy buffer (same ▸ rfl)
      refine ⟨_, _, _, .finish connection request (collaborators.answer moves request) rest,
        .answer request, ?_, (reads.finish 0 (.answer request)).1,
        nearer_finish reads other _⟩
      cases request <;> first | rfl | exact absurd rfl (other _)

/-- The fillings of the read loop's buffer so far. -/
def fillings (moves : List (ConnectionMove Callback Session)) : List Filling :=
  moves.filterMap filling?

theorem fillings_append_of_none {move : ConnectionMove Callback Session}
    (none : filling? move = none) : fillings (moves ++ [move]) = fillings moves := by
  rw [fillings, List.filterMap_append, filterMap_singleton, none, Option.toList_none,
    List.append_nil, fillings]

/-- The read loop is not running, or waits for the endpoint to fill a buffer. -/
def Settled (stack : List (ConnectionFrame Callback Session)) : Prop :=
  stack = [] ∨ ∃ buffer, stack = [.inside (.fill buffer), .task .letGo]

theorem exists_settled_of_looping (alive : first.closed = false) (bound : Nat)
    {frames : List (ConnectionFrame Callback Session)}
    (reading : Reading collaborators first moves connection (frames ++ [.task .letGo]))
    (looping : Looping connection frames) (near : ∀ frame ∈ frames, distance frame < bound) :
    ∃ further last stack, Reading collaborators first further last stack ∧
      fillings further = fillings moves ∧ Settled stack := by
  -- Every move brings the one frame of the loop nearer; the bound is on its distance.
  induction bound generalizing moves connection frames with
  | zero =>
      rcases frames with - | ⟨frame, frames⟩
      · exact ⟨_, _, [], reading.work, fillings_append_of_none rfl, .inl rfl⟩
      · exact absurd (near frame List.mem_cons_self) (Nat.not_lt_zero _)
  | succ bound ih =>
      rcases frames with - | ⟨frame, - | ⟨second, frames⟩⟩
      · exact ⟨_, _, [], reading.work, fillings_append_of_none rfl, .inl rfl⟩
      · by_cases waits : ∃ buffer, frame = .inside (.fill buffer)
        · obtain ⟨buffer, rfl⟩ := waits
          exact ⟨_, _, _, reading, rfl, .inr ⟨buffer, rfl⟩⟩
        · have open_ := (Routed.of_reading reading alive).alive
          obtain ⟨move, next, put, step, allowed, none, later, nearer⟩ :=
            exists_nearer (looping.reads frame (List.mem_singleton_self frame))
              (fun buffer same => waits ⟨buffer, same⟩) open_ [.task .letGo]
          obtain ⟨further, last, stack, reached, same, settled⟩ :=
            ih (.move reading step allowed) later fun other member => by
              have closer := of_decide_eq_true (List.all_eq_true.1 nearer other member)
              have bounded := near frame (List.mem_singleton_self frame)
              omega
          exact ⟨further, last, stack, reached, same.trans (fillings_append_of_none none), settled⟩
      · have single := looping.single
        simp at single

theorem exists_settled (alive : first.closed = false)
    (reading : Reading collaborators first moves connection stack) :
    ∃ further last stack, Reading collaborators first further last stack ∧
      fillings further = fillings moves ∧ Settled stack := by
  have ordered := (Routed.of_reading reading alive).ordered
  cases ordered with
  | idle => exact ⟨_, _, [], reading, rfl, .inl rfl⟩
  | begun =>
      have looping : Looping (step connection (.hold .fillable)).1
          [(.task .borrow : ConnectionFrame Callback Session)] := .singleton trivial
      obtain ⟨further, last, stack, reached, same, settled⟩ :=
        exists_settled_of_looping alive 5 reading.work looping (by simp [distance])
      exact ⟨further, last, stack, reached, same.trans (fillings_append_of_none rfl), settled⟩
  | looping looping =>
      refine exists_settled_of_looping alive 14 reading looping fun frame _ => ?_
      unfold distance
      split <;> decide

/-- When the read loop is called, it soon waits for the endpoint to fill a buffer. -/
theorem exists_waiting (reading : Reading collaborators first moves connection []) :
    ∃ further last buffer,
      Reading collaborators first further last [.inside (.fill buffer), .task .letGo] ∧
        fillings further = fillings moves := by
  have waiting := reading.call.work.work.begin.finish.begin
  refine ⟨_, _, _, waiting, ?_⟩
  iterate 6 rw [fillings_append_of_none rfl]

/-- When there is nothing to fill the buffer with, the read loop comes to its end. -/
theorem exists_ended {buffer : Buffer}
    (reading : Reading collaborators first moves connection
      [.inside (.fill buffer), .task .letGo]) :
    ∃ further last, Reading collaborators first further last [] ∧
      fillings further = fillings moves ++ [(buffer, .ok .empty)] := by
  have ended := (reading.fill (buffer, .ok .empty)).begin.finish.begin.finish.work
  refine ⟨_, _, ended, ?_⟩
  iterate 5 rw [fillings_append_of_none rfl]
  rw [fillings, List.filterMap_append]
  rfl

/-- Whether the endpoint has filled the buffer as a script says, and perhaps had nothing left then. -/
def Exhausts (moves : List (ConnectionMove Callback Session)) (script : List Filling) : Prop :=
  fillings moves = script ∨ ∃ buffer, fillings moves = script ++ [(buffer, .ok .empty)]

/-- Whatever the endpoint fills the buffer with, the read loop can be called until all is read. -/
theorem exists_reading (alive : first.closed = false) (script : List Filling)
    (reading : Reading collaborators first moves connection stack) :
    ∃ further last, Reading collaborators first further last [] ∧
      Exhausts further (fillings moves ++ script) := by
  -- The loop is brought to where it waits for the next filling, called again if it has ended.
  induction script generalizing moves connection stack with
  | nil =>
      rw [List.append_nil]
      obtain ⟨further, last, stack, settledReading, same, rfl | ⟨buffer, rfl⟩⟩ :=
        exists_settled alive reading
      · exact ⟨further, last, settledReading, .inl same⟩
      · obtain ⟨ended, last, endedReading, fillings⟩ := exists_ended settledReading
        exact ⟨ended, last, endedReading, .inr ⟨buffer, same ▸ fillings⟩⟩
  | cons filling script ih =>
      obtain ⟨further, last, buffer, waiting, same⟩ : ∃ further last buffer,
          Reading collaborators first further last [.inside (.fill buffer), .task .letGo] ∧
            fillings further = fillings moves := by
        obtain ⟨further, last, stack, reached, same, rfl | ⟨buffer, rfl⟩⟩ :=
          exists_settled alive reading
        · obtain ⟨further, last, buffer, waiting, still⟩ := exists_waiting reached
          exact ⟨further, last, buffer, waiting, still.trans same⟩
        · exact ⟨further, last, buffer, reached, same⟩
      obtain ⟨whole, last, ended, exhausts⟩ := ih (waiting.fill filling)
      refine ⟨whole, last, ended, ?_⟩
      have filled : fillings (further ++ [.finish (.fill buffer) filling]) =
          fillings moves ++ [filling] := by
        rw [fillings, List.filterMap_append, ← fillings, same]
        rfl
      rw [filled, List.append_assoc] at exhausts
      exact exhausts

/-- What a script leaves to be routed: its datagrams, in order. -/
theorem Exhausts.datagrams {script : List Filling} (exhausts : Exhausts moves script) :
    (moves.filterMap filling?).filterMap datagram? = script.filterMap datagram? := by
  rcases exhausts with same | ⟨buffer, more⟩
  · exact congrArg (List.filterMap datagram?) same
  · refine (congrArg (List.filterMap datagram?) more).trans ?_
    rw [List.filterMap_append]
    exact List.append_nil _

end Progress

/--
Collaborators that do not call back let the read loop of an open connection be called until the
endpoint has filled its buffer as any script says. However the calls have cut the script, the
registry, the counters and what the collaborators were called for are then those of a router that
routes the datagrams of the script one after the other.
-/
theorem reading_refines_router (collaborators : Collaborators Callback Session)
    {first : Connection Callback Session} (alive : first.closed = false) (script : List Filling) :
    (∃ moves last, Reading collaborators first moves last [] ∧ Exhausts moves script) ∧
      ∀ moves last, Reading collaborators first moves last [] → Exhausts moves script →
        router last (moves.filterMap call?) =
          (script.filterMap datagram?).foldl
            (Router.route first.config.localIdLength.toNat collaborators.factory)
            (router first []) := by
  refine ⟨exists_reading alive script .start, fun moves last reading exhausts => ?_⟩
  have routed := (Routed.of_reading reading alive).prospect
  rw [exhausts.datagrams] at routed
  exact routed

/-- Collaborators that answer as well as they can; the factory numbers its sessions. -/
def obliging : Collaborators Nat Nat where
  factory calls := .ok (some calls.length)
  others _ := answers .empty

/-- A filling with a datagram of as many bytes as are given. -/
def arriving (bytes : Bytes) : Filling := (⟨bytes, 1500⟩, .ok (.datagram bytes.length default))

/-- Two datagrams for one session and one for none, with an empty filling and a failure between. -/
def mixedScript : List Filling :=
  [arriving (List.replicate 17 7), (.empty 1500, .ok .empty), arriving [],
    (.empty 1500, .error (.system .timedOut)), arriving (List.replicate 17 7)]

theorem routed_after_mixedScript :
    ∃ moves last, Reading obliging {} moves last [] ∧ Exhausts moves mixedScript ∧
      last.received = 3 ∧ last.dropped = 1 ∧ last.created = 1 ∧
        (moves.filterMap call?).getLast? = some (.process 1 default (List.replicate 17 7)) := by
  obtain ⟨⟨moves, last, reading, exhausts⟩, refines⟩ :=
    @reading_refines_router Nat Nat obliging {} rfl mixedScript
  have routed := refines moves last reading exhausts
  have calls : (moves.filterMap call?).getLast? = _ :=
    congrArg (fun router => router.calls.getLast?) routed
  refine ⟨moves, last, reading, exhausts, ?_, ?_, ?_, ?_⟩
  · exact (congrArg Router.received routed).trans (by decide)
  · exact (congrArg Router.dropped routed).trans (by decide)
  · exact (congrArg Router.created routed).trans (by decide)
  · rw [calls]
    decide

end DatagramMux.Connection
