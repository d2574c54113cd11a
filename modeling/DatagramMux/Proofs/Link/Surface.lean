import DatagramMux.Proofs.Connection.Loudness
import DatagramMux.Proofs.Link.Settlement

/-!
# The connection above its endpoint

Whatever one thread does with a connection on a datagram endpoint, the connection goes through a run
of its own, for which the endpoint is a part of the surroundings: what the endpoint is asked is a call,
and a completion that it reports is the use of a ticket. What happens between a connection and its
input is not seen from outside, but all else is.
-/

namespace DatagramMux

open Component

namespace Link

variable {Callback Session : Type}
variable {link next : Link Callback Session} {move : LinkMove Callback Session}
variable {stack nextStack rest : List (LinkFrame Callback Session)}

/-! ## Frames and moves -/

/-- The frame of the connection that a task of its endpoint is. -/
def askedFrame : EndpointTask Callback → Connection.ConnectionFrame Callback Session
  | .fill buffer => .call (.fill buffer)
  | .receive buffer => .inside (.fill buffer)
  | .write ticket entry => .call (.flusher (.write ticket entry))
  | .interest => .call .interest
  | .shutdownOutput => .call .shutdownOutput
  | .isOpen => .call .isOpen
  | .isOutputOpen => .inside .isOpen
  | .close => .call .closeEndpoint

/-- The frame of the connection that a frame of the whole is. -/
def connectionFrame? : LinkFrame Callback Session →
    Option (Connection.ConnectionFrame Callback Session)
  | .task (.connection task) => some (.task task)
  | .task (.endpoint task) => some (askedFrame task)
  | .task (.answer request _) => some (.inside request)
  | .task (.udp _) => none
  | .call request => some (.call request)
  | .inside request => some (.inside request)

/-- The move of the connection that a move of the whole is, as far as it is seen. -/
def connectionMove? : LinkMove Callback Session →
    Option (Connection.ConnectionMove Callback Session)
  | .work (.connection task) => some (.work task)
  | .work (.udp (.unlock (some (ticket, completion)))) => some (.enter (.complete ticket completion))
  | .work (.endpoint (.write ticket entry)) => some (.begin (.flusher (.write ticket entry)))
  | .work (.endpoint .close) => some (.begin .closeEndpoint)
  | .work (.answer request reply) | .finish request reply => some (.finish request reply)
  | .begin request => some (.begin request)
  | .enter (.connection method) => some (.enter method)
  | _ => none

theorem connectionFrame?_liftConnection (frame : Connection.ConnectionFrame Callback Session) :
    connectionFrame? (liftConnection frame) = some frame := by
  cases frame with
  | task task => rfl
  | call request =>
      cases request with
      | flusher request => cases request <;> rfl
      | _ => rfl
  | inside request => rfl

theorem filterMap_map_liftConnection
    (frames : List (Connection.ConnectionFrame Callback Session)) :
    (frames.map liftConnection).filterMap connectionFrame? = frames :=
  filterMap_map_of_shown connectionFrame?_liftConnection frames

theorem connectionFrame?_told (request : Connection.Request Callback Session)
    (reply : Connection.Reply request) :
    (told request reply).filterMap connectionFrame? = Connection.resumed request reply :=
  filterMap_map_liftConnection (Connection.resumed request reply)

theorem filterMap_connectionFrame_udp (tasks : List (Udp.Task Nat)) :
    (tasks.map fun task => .task (.udp task) : List (LinkFrame Callback Session)).filterMap
      connectionFrame? = [] := by
  rw [List.filterMap_map]
  exact List.filterMap_eq_nil_iff.2 fun _ _ => rfl

/-! ## Where the endpoint reports -/

/-- Whether a frame is a step of the endpoint's output. -/
def isUdp : LinkFrame Callback Session → Bool
  | .task (.udp _) => true
  | _ => false

theorem isUdp_of_lies {frame : LinkFrame Callback Session} (below : lies frame = true) :
    isUdp frame = false := by
  unfold lies at below
  split at below <;> first | rfl | cases below

theorem isUdp_liftConnection (frame : Connection.ConnectionFrame Callback Session) :
    isUdp (liftConnection frame) = false := by
  cases frame with
  | task task => rfl
  | call request =>
      cases request with
      | flusher request => cases request <;> rfl
      | _ => rfl
  | inside request => rfl

/-- A step of the endpoint's output is on top of the stack, where the connection may be entered. -/
structure Perched (stack : List (LinkFrame Callback Session)) : Prop where
  stacked : Stacked stack
  enterable : ∀ task rest, stack = .task (.udp task) :: rest →
    Enterable (rest.filterMap connectionFrame?)

theorem perched_nil : Perched ([] : List (LinkFrame Callback Session)) :=
  ⟨stacked_nil, fun _ _ none => (nomatch none)⟩

theorem enterable_of_inside {frame : LinkFrame Callback Session}
    {request : Connection.Request Callback Session}
    (inside : connectionFrame? frame = some (.inside request)) :
    Enterable ((frame :: rest).filterMap connectionFrame?) := by
  rw [List.filterMap_cons_some inside]
  intro top first
  obtain rfl := Option.some.inj first
  rfl

theorem enterable_shown (enterable : Enterable stack) :
    Enterable (stack.filterMap connectionFrame?) := by
  rcases stack with - | ⟨frame, rest⟩
  · exact fun _ top => (nomatch top)
  · have under := enterable _ rfl
    cases frame with
    | inside request => exact enterable_of_inside rfl
    | task | call => cases under

theorem not_isUdp_of_mem_map {frames : List (Connection.ConnectionFrame Callback Session)} :
    ∀ frame ∈ frames.map liftConnection, isUdp frame = false := by
  intro frame member
  obtain ⟨part, -, rfl⟩ := List.mem_map.1 member
  exact isUdp_liftConnection part

theorem enterable_of_calm (put below : List (LinkFrame Callback Session))
    (lying : ∀ frame ∈ below, lies frame = true) (calm : ∀ frame ∈ put, isUdp frame = false)
    (task : Udp.Task Nat) (rest : List (LinkFrame Callback Session))
    (shape : put ++ below = .task (.udp task) :: rest) :
    Enterable (rest.filterMap connectionFrame?) := by
  have top : .task (.udp task) ∈ put ++ below := shape ▸ List.mem_cons_self
  rcases List.mem_append.1 top with inPut | inBelow
  · cases calm _ inPut
  · cases isUdp_of_lies (lying _ inBelow)

/-- What a move puts on top is no step of the output, or the connection may be entered below. -/
theorem Perched.step (step : Step (component Callback Session) link stack move next nextStack)
    (perched : Perched stack) : Perched nextStack := by
  refine ⟨perched.stacked.step step, ?_⟩
  cases step with
  | work task below free =>
      have lying : ∀ frame ∈ below, lies frame = true := perched.stacked
      cases task with
      | connection task => exact enterable_of_calm _ _ lying not_isUdp_of_mem_map
      | udp task =>
          have entered := perched.enterable task below rfl
          rcases put_of_udpStep link.udp task with ⟨⟨ticket, completion⟩, rfl⟩ | ⟨-, further, put⟩
          · exact enterable_of_calm [.task (.connection _)] _ lying (by simp [isUdp])
          · intro other rest shape
            rw [step_udp, put, flatMap_liftUdp] at shape
            rcases further with - | ⟨first, - | ⟨second, further⟩⟩
            · exact enterable_of_calm [] _ lying (by simp) other rest shape
            · obtain ⟨-, rfl⟩ := List.cons.inj shape
              exact entered
            · have length := Udp.length_step_le link.udp task
              rw [put] at length
              simp at length
      | endpoint task =>
          rw [step_endpoint]
          cases task with
          | write | shutdownOutput | close =>
              intro other rest shape
              obtain ⟨-, rfl⟩ := List.cons.inj shape
              exact enterable_of_inside rfl
          | fill buffer =>
              simp only [endpointStep]
              split
              · exact enterable_of_calm _ _ lying (by simp [isUdp])
              · exact enterable_of_calm _ _ lying not_isUdp_of_mem_map
          | isOpen =>
              simp only [endpointStep]
              split
              · exact enterable_of_calm _ _ lying not_isUdp_of_mem_map
              · exact enterable_of_calm _ _ lying (by simp [isUdp])
          | receive | interest | isOutputOpen =>
              exact enterable_of_calm _ _ lying not_isUdp_of_mem_map
      | answer request reply => exact enterable_of_calm _ _ lying not_isUdp_of_mem_map
  | «begin» request below =>
      exact enterable_of_calm [.inside request] _ perched.stacked (by simp [isUdp])
  | finish request reply below => exact enterable_of_calm _ _ perched.stacked not_isUdp_of_mem_map
  | enter method stack enterable =>
      intro other rest shape
      cases method with
      | connection method =>
          rcases stack with - | ⟨top, below⟩
          · exact enterable_of_calm _ [] (by simp) not_isUdp_of_mem_map other rest shape
          · refine enterable_of_calm _ (top :: below) ?_ not_isUdp_of_mem_map other rest shape
            intro frame member
            rcases List.mem_cons.1 member with rfl | deeper
            · exact lies_of_isInside _ (enterable _ rfl)
            · exact perched.stacked frame deeper
      | writable | shutdownOutput | closeEndpoint =>
          obtain ⟨-, rfl⟩ := List.cons.inj shape
          exact enterable_shown enterable

/-! ## The run of the connection -/

/-- What a move of the whole is for the connection: some moves, of which the loud ones are seen. -/
def Surfaces (link : Link Callback Session) (stack : List (LinkFrame Callback Session))
    (move : LinkMove Callback Session) (next : Link Callback Session)
    (nextStack : List (LinkFrame Callback Session)) : Prop :=
  ∃ further, Run (Connection.component Callback Session) link.connection
      (stack.filterMap connectionFrame?) further next.connection
      (nextStack.filterMap connectionFrame?) ∧
    further.filter Connection.loud = (connectionMove? move).toList.filter Connection.loud

/-- Something that the endpoint does at once is a call with a reply. -/
theorem surfaces_told {frame : LinkFrame Callback Session} (udp : Udp Nat)
    (request : Connection.Request Callback Session) (reply : Connection.Reply request)
    (asking : connectionFrame? frame = some (.call request))
    (unseen : (connectionMove? move).toList.filter Connection.loud =
      [.begin request, .finish request reply].filter Connection.loud) :
    Surfaces link (frame :: rest) move { link with udp := udp } (told request reply ++ rest) := by
  refine ⟨[.begin request, .finish request reply], ?_, unseen.symm⟩
  rw [List.filterMap_cons_some asking, List.filterMap_append, connectionFrame?_told]
  exact (run_begin (Connection.component Callback Session) link.connection request).append
    (run_finish (Connection.component Callback Session) link.connection request reply)

theorem surfaces_begin {frame : LinkFrame Callback Session} (udp : Udp Nat)
    (request : Connection.Request Callback Session) (put : List (LinkFrame Callback Session))
    (asking : connectionFrame? frame = some (.call request))
    (inside : put.filterMap connectionFrame? = [.inside request])
    (unseen : (connectionMove? move).toList.filter Connection.loud =
      [.begin request].filter Connection.loud) :
    Surfaces link (frame :: rest) move { link with udp := udp } (put ++ rest) := by
  refine ⟨[.begin request], ?_, unseen.symm⟩
  rw [List.filterMap_cons_some asking, List.filterMap_append, inside]
  exact run_begin (Connection.component Callback Session) link.connection request

theorem surfaces_finish {frame : LinkFrame Callback Session} (udp : Udp Nat)
    (request : Connection.Request Callback Session) (reply : Connection.Reply request)
    (inside : connectionFrame? frame = some (.inside request))
    (unseen : (connectionMove? move).toList.filter Connection.loud =
      [.finish request reply].filter Connection.loud) :
    Surfaces link (frame :: rest) move { link with udp := udp } (told request reply ++ rest) := by
  refine ⟨[.finish request reply], ?_, unseen.symm⟩
  rw [List.filterMap_cons_some inside, List.filterMap_append, connectionFrame?_told]
  exact run_finish (Connection.component Callback Session) link.connection request reply

theorem surfaces_endpoint (task : EndpointTask Callback) :
    Surfaces link (.task (.endpoint task) :: rest) (.work (.endpoint task))
      ((component Callback Session).step link (.endpoint task)).1
      (((component Callback Session).step link (.endpoint task)).2 ++ rest) := by
  rw [step_endpoint]
  cases task with
  | fill buffer =>
      simp only [endpointStep]
      split
      · exact surfaces_begin _ (.fill buffer) _ rfl rfl rfl
      · exact surfaces_told _ (.fill buffer) _ rfl rfl
  | receive buffer => exact surfaces_finish _ (.fill buffer) _ rfl rfl
  | write ticket entry => exact surfaces_begin _ (.flusher (.write ticket entry)) _ rfl rfl rfl
  | interest => exact surfaces_told _ .interest () rfl rfl
  | shutdownOutput => exact surfaces_begin _ .shutdownOutput _ rfl rfl rfl
  | isOpen =>
      simp only [endpointStep]
      split
      · exact surfaces_told _ .isOpen true rfl rfl
      · exact surfaces_begin _ .isOpen _ rfl rfl rfl
  | isOutputOpen => exact surfaces_finish _ .isOpen _ rfl rfl
  | close => exact surfaces_begin _ .closeEndpoint _ rfl rfl rfl

theorem surfaces_udp (task : Udp.Task Nat)
    (enterable : Enterable (rest.filterMap connectionFrame?)) :
    Surfaces link (.task (.udp task) :: rest) (.work (.udp task))
      ((component Callback Session).step link (.udp task)).1
      (((component Callback Session).step link (.udp task)).2 ++ rest) := by
  rw [step_udp]
  rcases put_of_udpStep link.udp task with ⟨⟨ticket, completion⟩, rfl⟩ | ⟨other, further, put⟩
  · refine ⟨[.enter (.complete ticket completion)], ?_, rfl⟩
    exact run_enter (Connection.component Callback Session) link.connection
      (.complete ticket completion) enterable
  · have unseen : connectionMove? (.work (.udp task) : LinkMove Callback Session) = none := by
      cases task with
      | unlock report? => cases report? <;> first | rfl | exact absurd rfl (other _)
      | _ => rfl
    refine ⟨[], ?_, by rw [unseen]; rfl⟩
    rw [put, flatMap_liftUdp, List.filterMap_append, filterMap_connectionFrame_udp]
    exact .refl _ _

theorem Perched.surfaces (step : Step (component Callback Session) link stack move next nextStack)
    (perched : Perched stack) : Surfaces link stack move next nextStack := by
  cases step with
  | work task below free =>
      cases task with
      | connection task =>
          refine ⟨[.work task], ?_, rfl⟩
          rw [step_connection, List.filterMap_append, filterMap_map_liftConnection]
          exact run_work (Connection.component Callback Session) link.connection task rfl
      | udp task => exact surfaces_udp task (perched.enterable task below rfl)
      | endpoint task => exact surfaces_endpoint task
      | answer request reply => exact surfaces_finish link.udp request reply rfl rfl
  | «begin» request below => exact surfaces_begin link.udp request [.inside request] rfl rfl rfl
  | finish request reply below => exact surfaces_finish link.udp request reply rfl rfl
  | enter method stack enterable =>
      cases method with
      | connection method =>
          refine ⟨[.enter method], ?_, rfl⟩
          change Run _ _ _ _ _ (((((Connection.component Callback Session).body method).map
            liftConnection) ++ stack).filterMap connectionFrame?)
          rw [List.filterMap_append, filterMap_map_liftConnection]
          exact run_enter (Connection.component Callback Session) link.connection method
            (enterable_shown enterable)
      | writable | shutdownOutput | closeEndpoint => exact ⟨[], .refl _ _, rfl⟩

/-- What one thread does with a connection on an endpoint is a run of the connection on one stack. -/
theorem exists_connection_run {first last : Link Callback Session}
    {moves : List (LinkMove Callback Session)} {intakes : List Udp.Intake}
    (run : EventRun (component Callback Session) adjust first [] moves intakes last stack) :
    ∃ further, Run (Connection.component Callback Session) first.connection [] further
        last.connection (stack.filterMap connectionFrame?) ∧
      further.filter Connection.loud =
        (moves.filterMap connectionMove?).filter Connection.loud := by
  obtain ⟨further, nothing, onward, heard⟩ := run.project (fun connection (_ : Empty) => connection)
    (fun link => link.connection) connectionFrame? connectionMove? Connection.loud
    (fun step perched => Perched.step step perched)
    (fun step perched => by
      obtain ⟨further, onward, heard⟩ := Perched.surfaces step perched
      exact ⟨further, [], onward.eventRun, heard⟩)
    (fun _ _ => ⟨[], rfl⟩) perched_nil
  exact ⟨further, onward.run_of_isEmpty, heard⟩

/-! ## A connection that was closed -/

/-- Whether a move is a loud move of the connection. -/
def loud (move : LinkMove Callback Session) : Bool :=
  (connectionMove? move).any Connection.loud

theorem loud_of_forges (forged : forges move = true) : loud move = true := by
  unfold forges at forged
  split at forged
  · rfl
  · cases forged

theorem connectionMove_filter_loud (moves : List (LinkMove Callback Session)) :
    ((moves.filter loud).filterMap connectionMove?).filter Connection.loud =
      (moves.filterMap connectionMove?).filter Connection.loud := by
  rw [List.filter_filterMap, List.filter_filterMap, List.filterMap_filter]
  refine List.filterMap_congr fun move _ => ?_
  cases seen : connectionMove? move with
  | none => simp
  | some part => cases heard : Connection.loud part <;> simp [loud, seen, heard, Option.filter]

theorem flusherMoves_connectionMove (moves : List (LinkMove Callback Session)) :
    (moves.filterMap connectionMove?).flatMap Connection.flusherMoves =
      moves.flatMap flusherMoves := by
  have single (move : LinkMove Callback Session) :
      (connectionMove? move).toList.flatMap Connection.flusherMoves = flusherMoves move := by
    cases move with
    | work task =>
        cases task with
        | udp task =>
            cases task with
            | unlock report? => cases report? <;> rfl
            | _ => rfl
        | endpoint task => cases task <;> rfl
        | connection task => exact List.append_nil _
        | answer request reply => exact List.append_nil _
    | «begin» | finish => exact List.append_nil _
    | enter method =>
        cases method with
        | connection method => exact List.append_nil _
        | _ => rfl
  induction moves with
  | nil => rfl
  | cons move moves ih =>
      rw [List.filterMap_cons, List.flatMap_cons, ← ih, ← single]
      cases connectionMove? move <;> simp

/-- The connection asks its endpoint to close by nothing but the task for it. -/
theorem Tended.close_mem {initial : List Parcel} {moves : List (LinkMove Callback Session)}
    (tended : Tended initial moves link stack)
    (begun : .begin .closeEndpoint ∈ moves.filterMap connectionMove?) :
    .work (.endpoint .close) ∈ moves := by
  obtain ⟨move, member, seen⟩ := List.mem_filterMap.1 begun
  unfold connectionMove? at seen
  split at seen <;> cases seen
  · exact member
  · cases tended.asked _ member

/-- When a connection was closed and everybody has returned, nothing is left of what it was given. -/
theorem concluded_of_closed [DecidableEq Session] {config : Config}
    {first last : Link Callback Session} {moves : List (LinkMove Callback Session)}
    {intakes : List Udp.Intake}
    (opened : Connection.new config = .ok first.connection) (unused : first.udp.parked = none)
    (run : EventRun (component Callback Session) adjust first [] moves intakes last [])
    (own : ∀ move ∈ moves, forges move = false)
    (fresh : ((moves.filterMap connectionMove?).filterMap Connection.born).Nodup)
    (closed : last.connection.closed = true) :
    Connection.Concluded first.connection last.connection (moves.filterMap connectionMove?) ∧
      last.udp.parked = none := by
  have tended := tended_of_run opened unused run own
  obtain ⟨parts, onward, heard⟩ := exists_connection_run run
  rw [← Connection.born_eq_of_same heard] at fresh
  obtain ⟨-, idle, once⟩ := Connection.ended_of_closed opened onward closed
  -- The connection has asked for its endpoint to be closed, and nobody but the endpoint meets that.
  have closing : .work (.endpoint .close) ∈ moves := by
    obtain ⟨move, member, closes⟩ := List.countP_pos_iff.1 (once ▸ Nat.one_pos)
    unfold Connection.closesEndpoint at closes
    split at closes
    · have loudly : .begin .closeEndpoint ∈ parts.filter Connection.loud :=
        List.mem_filter.2 ⟨member, rfl⟩
      rw [heard] at loudly
      exact tended.close_mem (List.mem_filter.1 loudly).1
    · cases closes
  obtain ⟨empty, completed⟩ := tended.uncompleted_eq_nil closing
  have same : Connection.journal parts = journal moves := by
    rw [Connection.journal_eq_of_same heard, Connection.journal, flusherMoves_connectionMove, journal]
  have concluded : Connection.Concluded first.connection last.connection parts := by
    refine ⟨closed, Connection.vacant_of_closed opened onward closed, idle,
      fun session => Connection.closed_once_of_closed opened onward fresh closed, ?_⟩
    rw [same]
    exact (Flusher.Sound.of_run tended.flushed).told_perm_offered idle completed
  exact ⟨concluded.of_same heard, empty⟩

end Link

end DatagramMux
