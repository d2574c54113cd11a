import DatagramMux.Proofs.Link.Surface
import DatagramMux.Proofs.Server.Reading

/-!
# The connection below its server

Whatever one thread does with a server, and whatever happens to the server in the meantime, the
connection and its endpoint go through a run of their own. For them the event loop is somebody who
looks after the socket, sends what is parked, asks them to read and in the end to close.
-/

namespace DatagramMux.Server

open Component

variable {Callback Session : Type}
variable {server next : Server Callback Session} {move : ServerMove Callback Session}
variable {stack nextStack rest : List (ServerFrame Callback Session)}

/-- What may happen to a server while it is in use. -/
inductive Happening where
  | socket (event : SocketEvent)
  /-- Somebody tells the event loop to end, or no longer to end. -/
  | shutdown (wanted : Bool)

def happen (server : Server Callback Session) : Happening → Server Callback Session
  | .socket event => server.undergo event
  | .shutdown wanted => { server with shutdown := wanted }

/-! ## Frames and moves -/

/-- The frame of the connection and its endpoint that a frame of the server is. -/
def linkFrame? : ServerFrame Callback Session → Option (Link.LinkFrame Callback Session)
  | .task (.link task) => some (.task task)
  | .task (.lend least direct) => some (.call (.acquire least direct))
  | .task (.takeBack buffer ending) => some (.call (.release buffer ending))
  | .task _ => none
  | .call request => some (.call request)
  | .inside request => some (.inside request)

/-- The move of the connection and its endpoint that a move of the server is, as far as it is seen. -/
def linkMove? : ServerMove Callback Session → Option (Link.LinkMove Callback Session)
  | .work (.link task) => some (.work task)
  | .begin request => some (.begin request)
  | .finish request reply => some (.finish request reply)
  | .enter (.connection method) => some (.enter (.connection method))
  | _ => none

/-- The moves of the connection that the moves of a server are, as far as they are seen. -/
def connectionMoves (moves : List (ServerMove Callback Session)) :
    List (Connection.ConnectionMove Callback Session) :=
  (moves.filterMap linkMove?).filterMap Link.connectionMove?

theorem connectionMoves_append (moves further : List (ServerMove Callback Session)) :
    connectionMoves (moves ++ further) = connectionMoves moves ++ connectionMoves further := by
  rw [connectionMoves, List.filterMap_append, List.filterMap_append, connectionMoves, connectionMoves]

theorem linkFrame?_liftLink (frame : Link.LinkFrame Callback Session) :
    linkFrame? (liftLink frame) = some frame := by
  cases frame with
  | task task => rfl
  | call request => cases request <;> rfl
  | inside request => rfl

theorem filterMap_map_liftLink (frames : List (Link.LinkFrame Callback Session)) :
    (frames.map liftLink).filterMap linkFrame? = frames :=
  filterMap_map_of_shown linkFrame?_liftLink frames

theorem linkFrame?_told (request : Connection.Request Callback Session)
    (reply : Connection.Reply request) :
    (told request reply).filterMap linkFrame? = Link.told request reply :=
  filterMap_map_liftLink (Link.told request reply)

theorem enterable_link (enterable : Enterable stack) : Enterable (stack.filterMap linkFrame?) := by
  rcases stack with - | ⟨frame, rest⟩
  · exact fun _ top => nomatch top
  · have under := enterable _ rfl
    cases frame with
    | task | call => cases under
    | inside request =>
        intro top first
        obtain rfl := Option.some.inj first
        rfl

/-! ## Where the event loop uses the connection -/

/-- Whether a frame belongs to an event loop that has not yet ended. -/
def loops : ServerFrame Callback Session → Bool
  | .task .consult | .task .consultConnection | .task (.poll _) | .task (.read _ _)
  | .task (.endRound _ _) => true
  | _ => false

/-- An event loop runs where the connection may be entered. -/
def Founded : List (ServerFrame Callback Session) → Prop
  | [] => True
  | frame :: rest => (loops frame = true → Enterable (rest.filterMap linkFrame?)) ∧ Founded rest

theorem founded_append (put : List (ServerFrame Callback Session))
    (calm : ∀ frame ∈ put, loops frame = false) (founded : Founded rest) :
    Founded (put ++ rest) := by
  induction put with
  | nil => exact founded
  | cons frame put ih =>
      refine ⟨fun looping => ?_, ih fun other member => calm other (List.mem_cons_of_mem _ member)⟩
      rw [calm frame List.mem_cons_self] at looping
      cases looping

theorem loops_liftLink (frame : Link.LinkFrame Callback Session) :
    loops (liftLink frame) = false := by
  cases frame with
  | task | inside => rfl
  | call request => cases request <;> rfl

theorem loops_of_mem_map {frames : List (Link.LinkFrame Callback Session)} :
    ∀ frame ∈ frames.map liftLink, loops frame = false :=
  List.forall_mem_map.2 fun frame _ => loops_liftLink frame

theorem founded_map (frames : List (Link.LinkFrame Callback Session)) (founded : Founded rest) :
    Founded (frames.map liftLink ++ rest) :=
  founded_append _ loops_of_mem_map founded

theorem founded_enterLink (method : Link.Method Callback) (founded : Founded rest) :
    Founded (enterLink method ++ rest) :=
  founded_map _ founded

theorem founded_leave (result : Except MuxError Unit) (founded : Founded rest) :
    Founded (leave result ++ rest) := by
  rw [leave, List.append_assoc]
  exact founded_enterLink _ (founded_append _ (by simp [loops]) founded)

theorem Founded.step (step : Step (component Callback Session) server stack move next nextStack)
    (founded : Founded stack) : Founded nextStack := by
  cases step with
  | work task rest free =>
      obtain ⟨enterable, below⟩ := founded
      cases task with
      | link task => exact founded_map _ below
      | lend least direct => exact founded_map _ below
      | takeBack buffer ending => exact founded_map _ below
      | consult | consultConnection =>
          simp only [component, Server.step]
          split
          · exact founded_leave (.ok ()) below
          · exact ⟨fun _ => enterable rfl, below⟩
      | poll looping =>
          simp only [component, Server.step]
          split
          · exact ⟨fun _ => enterable rfl, below⟩
          · exact ⟨fun _ => enterable rfl, below⟩
          · exact ⟨fun _ => enterable rfl, below⟩
          · rw [List.append_assoc]
            exact founded_enterLink .writable ⟨fun _ => enterable rfl, below⟩
      | read readable looping =>
          simp only [component, Server.step]
          split
          · rw [List.append_assoc]
            refine founded_append _ (fun frame member => ?_) ⟨fun _ => enterable rfl, below⟩
            split at member
            · exact loops_of_mem_map frame member
            · cases member
          · exact ⟨fun _ => enterable rfl, below⟩
      | endRound result looping =>
          rcases looping with - | -
          · exact below
          · rcases result with error | count
            · exact founded_leave (.error error) below
            · exact ⟨fun _ => enterable rfl, below⟩
      | endLoop result => exact below
  | «begin» request rest =>
      exact founded_append [.inside request] (by simp [loops]) founded.2
  | finish request reply rest => exact founded_map _ founded.2
  | enter method stack enterable =>
      cases method with
      | connection method => exact founded_enterLink (.connection method) founded
      | runOnce | run => exact ⟨fun _ => enterable_link enterable, founded⟩

/-! ## What is left alone -/

theorem sent_poll (socket : Socket) : socket.poll.1.sent = socket.sent := by
  obtain ⟨readable, writable, answers, same⟩ := socket.eq_of_poll
  rw [same]

theorem sent_undergo (socket : Socket) (event : SocketEvent) :
    (socket.undergo event).sent = socket.sent := by
  cases event <;> rfl

/-- The socket of a server is the input of its endpoint, but for what was sent. -/
theorem link_setSocket {socket : Socket} (sent : socket.sent = server.socket.sent) :
    (server.setSocket socket).link = server.link.adjust ⟨socket, server.udp.interest⟩ := by
  change socket.sent = server.link.udp.socket.sent at sent
  simp only [setSocket, Link.adjust, Udp.adjust, udp, ← sent]

theorem link_happen (server : Server Callback Session) (happening : Happening) :
    ∃ intakes : List Udp.Intake,
      (server.happen happening).link = intakes.foldl Link.adjust server.link := by
  cases happening with
  | socket event => exact ⟨[_], link_setSocket (sent_undergo server.socket event)⟩
  | shutdown wanted => exact ⟨[], rfl⟩

/-! ## The run of the connection and its endpoint -/

/-- What a move of a server is for its connection: some moves, of which the loud ones are seen. -/
def Shows (server : Server Callback Session) (stack : List (ServerFrame Callback Session))
    (move : ServerMove Callback Session) (next : Server Callback Session)
    (nextStack : List (ServerFrame Callback Session)) : Prop :=
  ∃ parts intakes, EventRun (Link.component Callback Session) Link.adjust server.link
      (stack.filterMap linkFrame?) parts intakes next.link (nextStack.filterMap linkFrame?) ∧
    parts.filter Link.loud = (linkMove? move).toList.filter Link.loud

section Shows

variable {task : Task Callback Session}

theorem shows_of_run (parts : List (Link.LinkMove Callback Session))
    (run : Run (Link.component Callback Session) server.link (stack.filterMap linkFrame?) parts
      next.link (nextStack.filterMap linkFrame?))
    (seen : parts.filter Link.loud = (linkMove? move).toList.filter Link.loud) :
    Shows server stack move next nextStack :=
  ⟨parts, [], run.eventRun, seen⟩

/-- What the event loop does by itself concerns the input only. -/
theorem shows_aside (put : List (ServerFrame Callback Session)) (intakes : List Udp.Intake)
    (link : next.link = intakes.foldl Link.adjust server.link)
    (hidden : linkFrame? (.task task) = none) (silent : linkMove? (.work task) = none)
    (unseen : put.filterMap linkFrame? = []) :
    Shows server (.task task :: rest) (.work task) next (put ++ rest) := by
  refine ⟨[], intakes, ?_, by rw [silent]; rfl⟩
  rw [List.filterMap_cons_none hidden, List.filterMap_append, unseen, link]
  exact (EventRun.refl server.link (rest.filterMap linkFrame?)).happen intakes

/-- What the event loop asks of the connection or its endpoint is not heard before it is done. -/
theorem shows_enter (intakes : List Udp.Intake) (method : Link.Method Callback)
    (put : List (ServerFrame Callback Session))
    (link : next.link = intakes.foldl Link.adjust server.link)
    (hidden : linkFrame? (.task task) = none) (silent : linkMove? (.work task) = none)
    (quiet : Link.loud (.enter method : Link.LinkMove Callback Session) = false)
    (unseen : put.filterMap linkFrame? = []) (enterable : Enterable (rest.filterMap linkFrame?)) :
    Shows server (.task task :: rest) (.work task) next (enterLink method ++ put ++ rest) := by
  have unheard : [.enter method].filter Link.loud = ([] : List (Link.LinkMove Callback Session)) :=
    List.filter_cons_of_neg (by simp [quiet])
  refine ⟨[.enter method], intakes, ?_, by rw [silent, unheard]; rfl⟩
  have entered : (enterLink method).filterMap linkFrame? =
      (Link.component Callback Session).body method := filterMap_map_liftLink _
  rw [List.filterMap_cons_none hidden, List.filterMap_append, List.filterMap_append, entered, unseen,
    List.append_nil, link]
  exact .move ((EventRun.refl server.link (rest.filterMap linkFrame?)).happen intakes)
    (.enter _ method _ enterable)

theorem shows_leave (result : Except MuxError Unit) (link : next.link = server.link)
    (hidden : linkFrame? (.task task) = none) (silent : linkMove? (.work task) = none)
    (enterable : Enterable (rest.filterMap linkFrame?)) :
    Shows server (.task task :: rest) (.work task) next (leave result ++ rest) :=
  shows_enter [] (.connection .close) [_] link hidden silent rfl rfl enterable

/-- What the server does for the connection by itself is a call with a reply. -/
theorem shows_answer (request : Connection.Request Callback Session)
    (reply : Connection.Reply request) (link : next.link = server.link)
    (asking : linkFrame? (.task task) = some (.call request))
    (silent : linkMove? (.work task) = none)
    (quiet : [.begin request, .finish request reply].filter Link.loud = []) :
    Shows server (.task task :: rest) (.work task) next (told request reply ++ rest) := by
  refine shows_of_run [.begin request, .finish request reply] ?_ (by rw [silent, quiet]; rfl)
  rw [List.filterMap_cons_some asking, List.filterMap_append, linkFrame?_told, link]
  exact (run_begin (Link.component Callback Session) server.link request).append
    (run_finish (Link.component Callback Session) server.link request reply)

theorem shows_poll (looping : Bool) (enterable : Enterable (rest.filterMap linkFrame?)) :
    Shows server (.task (.poll looping) :: rest) (.work (.poll looping))
      (step server (.poll looping)).1 ((step server (.poll looping)).2 ++ rest) := by
  have polled {socket : Socket} {result : Except IoKind (Option Bool)}
      (waited : server.socket.poll = (socket, result)) :
      (server.setSocket socket).link =
        [⟨socket, server.udp.interest⟩].foldl Link.adjust server.link := by
    refine link_setSocket ?_
    rw [← sent_poll server.socket, waited]
  simp only [step]
  split
  · next waited => exact shows_aside [_] _ (polled waited) rfl rfl rfl
  · next waited => exact shows_aside [_] _ (polled waited) rfl rfl rfl
  · next waited => exact shows_aside [_] _ (polled waited) rfl rfl rfl
  · next waited => exact shows_enter _ .writable [_] (polled waited) rfl rfl rfl rfl enterable

theorem shows_read (readable looping : Bool) (enterable : Enterable (rest.filterMap linkFrame?)) :
    Shows server (.task (.read readable looping) :: rest) (.work (.read readable looping))
      (step server (.read readable looping)).1
      ((step server (.read readable looping)).2 ++ rest) := by
  simp only [step]
  split
  · cases interested : server.udp.interest with
    | true =>
        simp only [Udp.takeInterest, interested, if_true]
        exact shows_enter [⟨server.socket, false⟩] (.connection .fillable) [_] rfl rfl rfl rfl rfl
          enterable
    | false =>
        simp only [Udp.takeInterest, interested, Bool.false_eq_true, if_false, List.nil_append]
        exact shows_aside [_] [⟨server.socket, false⟩] rfl rfl rfl rfl
  · exact shows_aside [_] [] rfl rfl rfl rfl

end Shows

theorem Founded.shows (step : Step (component Callback Session) server stack move next nextStack)
    (founded : Founded stack) : Shows server stack move next nextStack := by
  cases step with
  | work task rest free =>
      cases task with
      | link task =>
          refine shows_of_run [.work task] ?_ rfl
          change Run _ _ _ _ _ (((Link.step server.link task).2.map liftLink ++ rest).filterMap
            linkFrame?)
          rw [List.filterMap_append, filterMap_map_liftLink]
          exact run_work (Link.component Callback Session) server.link task free
      | lend least direct => exact shows_answer (.acquire least direct) _ rfl rfl rfl rfl
      | takeBack buffer ending => exact shows_answer (.release buffer ending) () rfl rfl rfl rfl
      | consult | consultConnection =>
          simp only [component, Server.step]
          split
          · exact shows_leave (.ok ()) rfl rfl rfl (founded.1 rfl)
          · exact shows_aside [_] [] rfl rfl rfl rfl
      | poll looping => exact shows_poll looping (founded.1 rfl)
      | read readable looping => exact shows_read readable looping (founded.1 rfl)
      | endRound result looping =>
          rcases looping with - | -
          · exact shows_aside [] [] rfl rfl rfl rfl
          · rcases result with error | count
            · exact shows_leave (.error error) rfl rfl rfl (founded.1 rfl)
            · exact shows_aside [_] [] rfl rfl rfl rfl
      | endLoop result => exact shows_aside [] [] rfl rfl rfl rfl
  | «begin» request rest =>
      exact shows_of_run _ (run_begin (Link.component Callback Session) server.link request) rfl
  | finish request reply rest =>
      refine shows_of_run [.finish request reply] ?_ rfl
      change Run _ _ _ _ _ ((told request reply ++ rest).filterMap linkFrame?)
      rw [List.filterMap_append, linkFrame?_told]
      exact run_finish (Link.component Callback Session) server.link request reply
  | enter method stack enterable =>
      cases method with
      | connection method =>
          refine shows_of_run [.enter (.connection method)] ?_ rfl
          change Run _ _ _ _ _ ((enterLink (.connection method) ++ stack).filterMap linkFrame?)
          rw [List.filterMap_append, enterLink, filterMap_map_liftLink]
          exact run_enter (Link.component Callback Session) server.link (.connection method)
            (enterable_link enterable)
      | runOnce | run => exact shows_of_run [] (.refl _ _) rfl

/-- What one thread does with a server is a run of the connection and its endpoint on one stack. -/
theorem exists_link_run {first last : Server Callback Session}
    {moves : List (ServerMove Callback Session)} {happenings : List Happening}
    (run : EventRun (component Callback Session) happen first [] moves happenings last stack) :
    ∃ parts intakes, EventRun (Link.component Callback Session) Link.adjust first.link [] parts
        intakes last.link (stack.filterMap linkFrame?) ∧
      parts.filter Link.loud = (moves.filterMap linkMove?).filter Link.loud :=
  run.project Link.adjust (fun server : Server Callback Session => server.link) linkFrame? linkMove?
    Link.loud
    (fun step founded => Founded.step step founded) (fun step founded => Founded.shows step founded)
    link_happen trivial

theorem same_connectionMoves {parts : List (Link.LinkMove Callback Session)}
    {moves : List (ServerMove Callback Session)}
    (heard : parts.filter Link.loud = (moves.filterMap linkMove?).filter Link.loud) :
    (parts.filterMap Link.connectionMove?).filter Connection.loud =
      (connectionMoves moves).filter Connection.loud := by
  rw [← Link.connectionMove_filter_loud, heard, Link.connectionMove_filter_loud, connectionMoves]

/-! ## A server whose connection was closed -/

/-- Whether somebody else than the endpoint reports the completion of a write. -/
def forges : ServerMove Callback Session → Bool
  | .enter (.connection (.complete _ _)) => true
  | _ => false

theorem forges_of_seen {part : Link.LinkMove Callback Session} (seen : linkMove? move = some part) :
    Link.forges part = forges move := by
  cases move with
  | work task =>
      cases task <;> cases seen
      rfl
  | «begin» | finish =>
      cases seen
      rfl
  | enter method =>
      cases method with
      | connection method =>
          cases seen
          cases method <;> rfl
      | runOnce | run => cases seen

theorem concluded_of_closed [DecidableEq Session] {answers : BindAnswers} {config : Config}
    {taken routed : Bool} {first last : Server Callback Session}
    {moves : List (ServerMove Callback Session)} {happenings : List Happening}
    (bound : bind answers config taken routed = .ok first)
    (run : EventRun (component Callback Session) happen first [] moves happenings last [])
    (own : ∀ move ∈ moves, forges move = false)
    (fresh : ((connectionMoves moves).filterMap Connection.born).Nodup)
    (closed : last.connection.closed = true) :
    Connection.Concluded first.connection last.connection (connectionMoves moves) ∧
      last.udp.parked = none := by
  obtain ⟨parts, intakes, onward, heard⟩ := exists_link_run run
  have same := same_connectionMoves heard
  have ownParts : ∀ move ∈ parts, Link.forges move = false := by
    intro part member
    by_contra forged
    rw [Bool.not_eq_false] at forged
    have loudly := List.mem_filter.2 ⟨member, Link.loud_of_forges forged⟩
    rw [heard] at loudly
    obtain ⟨move, made, seen⟩ := List.mem_filterMap.1 (List.mem_filter.1 loudly).1
    rw [forges_of_seen seen, own move made] at forged
    cases forged
  rw [← Connection.born_eq_of_same same] at fresh
  obtain ⟨connection, opened, rfl⟩ := eq_of_bind bound
  obtain ⟨concluded, empty⟩ := Link.concluded_of_closed opened rfl onward ownParts fresh closed
  exact ⟨concluded.of_same same, empty⟩

end DatagramMux.Server
