import DatagramMux.Proofs.Server.Looping

/-!
# What an event loop leaves behind

However the event loop of a server ends, it leaves nothing behind: the connection is closed, no
session is registered, nothing waits to be written, and every callback was called.
-/

namespace DatagramMux.Server

open Component

variable {Callback Session : Type}

/--
The event loop of a server, which may have been used before, returns. Whatever has happened to the
socket, and whatever the factory, whose sessions are new, the sessions and the callbacks have done with
the connection meanwhile, nothing is left of what the connection was given; and the result is an error
just if waiting for an event has failed for another reason than an interruption. Nobody but the endpoint
reports completions, and nobody else runs the event loop meanwhile.
-/
theorem nothing_left_behind [DecidableEq Session] {answers : BindAnswers} {config : Config}
    {taken routed : Bool} {first idle last : Server Callback Session}
    {earlier moves : List (ServerMove Callback Session)} {past happenings : List Happening}
    (bound : bind answers config taken routed = .ok first)
    (before : EventRun (component Callback Session) happen first [] earlier past idle [])
    (run : EventRun (component Callback Session) happen idle ((component Callback Session).body .run)
      moves happenings last [])
    (alone : ∀ move ∈ moves, starts move = false)
    (own : ∀ move ∈ earlier ++ moves, forges move = false)
    (fresh : ((connectionMoves (earlier ++ moves)).filterMap Connection.born).Nodup) :
    Connection.Concluded first.connection last.connection (connectionMoves (earlier ++ moves)) ∧
      last.udp.parked = none ∧
        ∃ result, last.returned? = some (.loop result) ∧
          ((∃ error, result = .error error) ↔ Makes (component Callback Session) happen PollFails idle
            ((component Callback Session).body .run) moves happenings last []) := by
  have entered : EventRun (component Callback Session) happen first [] (earlier ++ [.enter .run]) past
      idle ((component Callback Session).body .run) :=
    .move before (Step.enter idle (Method.run : Method Callback) [] enterable_nil)
  have whole := entered.trans run
  have same : connectionMoves (earlier ++ [.enter .run] ++ moves) =
      connectionMoves (earlier ++ moves) := by
    rw [connectionMoves_append, connectionMoves_append, connectionMoves_append]
    exact congrArg (· ++ connectionMoves moves) (List.append_nil _)
  have ownWhole : ∀ move ∈ earlier ++ [.enter .run] ++ moves, forges move = false := by
    intro move member
    rcases List.mem_append.1 member with inEarlier | inMoves
    · rcases List.mem_append.1 inEarlier with inEarlier | entering
      · exact own move (List.mem_append_left _ inEarlier)
      · exact List.mem_singleton.1 entering ▸ rfl
    · exact own move (List.mem_append_right _ inMoves)
  obtain ⟨concluded, empty⟩ := concluded_of_closed bound whole ownWhole (same ▸ fresh)
    (closed_of_run run rfl)
  exact ⟨same ▸ concluded, empty, returned_of_run run alone⟩

/-! ## A loop that fails -/

/-- A server with callbacks and sessions that are told apart. -/
def busyServer : Server Nat Nat :=
  { link := ⟨{}, { socket := { address := .unspecified } }⟩, pool := .new 64 }

/-- A datagram arrives, nothing can be sent for now, and the second wait for an event will fail. -/
def trouble : List Happening :=
  [.socket (.answer [some .wouldBlock] [] [none, some .permissionDenied]),
    .socket (.arrive default (List.replicate 17 7))]

/-- The factory submits a write while it creates a session. -/
def busyLoop : List (Choice (Connection.Request Nat Nat) (Method Nat) Connection.Reply) :=
  List.replicate 17 .proceed ++ [.enter (.connection (.write ⟨5, default, []⟩))] ++
    (List.replicate 60 [.proceed, .finish (Connection.answers .empty)]).flatten

/-- The trace of an event loop that follows a script after some things have happened. -/
def loopAfter (server : Server Nat Nat) (happenings : List Happening)
    (script : List (Choice (Connection.Request Nat Nat) (Method Nat) Connection.Reply)) :
    Trace (Server Nat Nat) (Task Nat Nat) (Connection.Request Nat Nat) (Method Nat)
      Connection.Reply :=
  Trace.followFrom (component Nat Nat) (happenings.foldl happen server)
    ((component Nat Nat).body .run) script

theorem run_loopAfter (server : Server Nat Nat) (happenings : List Happening)
    (script : List (Choice (Connection.Request Nat Nat) (Method Nat) Connection.Reply)) :
    EventRun (component Nat Nat) happen server ((component Nat Nat).body .run)
      (loopAfter server happenings script).moves happenings (loopAfter server happenings script).state
        (loopAfter server happenings script).stack := by
  have awaiting : EventRun (component Nat Nat) happen server ((component Nat Nat).body .run) []
      happenings (happenings.foldl happen server) ((component Nat Nat).body .run) :=
    (EventRun.refl server _).happen happenings
  exact awaiting.append (Trace.run_followFrom (component Nat Nat) _ _ script)

set_option maxRecDepth 10000 in
theorem nothing_left_after_trouble :
    let trace := loopAfter busyServer trouble busyLoop
    let seen := connectionMoves trace.moves
    EventRun (component Nat Nat) happen busyServer ((component Nat Nat).body .run) trace.moves trouble
        trace.state [] ∧
      trace.state.returned? = some (.loop (.error (.io (.system .permissionDenied)))) ∧
      Connection.Enrolled busyServer.connection seen 1 ∧ seen.countP (Connection.closes 1) = 1 ∧
      (Connection.journal seen).told.map Prod.fst = [5] ∧ trace.state.udp.parked = none ∧
      Makes (component Nat Nat) happen PollFails busyServer ((component Nat Nat).body .run) trace.moves
        trouble trace.state [] := by
  intro trace seen
  have bound : bind {} {} false true = .ok busyServer := rfl
  have quiet : trace.stack = [] := List.isEmpty_iff.1 (by decide +kernel)
  have run : EventRun (component Nat Nat) happen busyServer ((component Nat Nat).body .run) trace.moves
      trouble trace.state trace.stack := run_loopAfter busyServer trouble busyLoop
  rw [quiet] at run
  have alone : trace.moves.any starts = false := by decide +kernel
  have own : trace.moves.any forges = false := by decide +kernel
  have fresh : (seen.filterMap Connection.born).Nodup := by decide +kernel
  have returned : trace.state.returned? =
      some (.loop (.error (.io (.system .permissionDenied)))) := rfl
  have enrolled : Connection.Enrolled busyServer.connection seen 1 :=
    ⟨seen.take 24, seen.drop 24, ⟨List.replicate 16 7⟩, (List.take_append_drop 24 seen).symm,
      by decide +kernel⟩
  have sought : seen.any Connection.seeksOut = false := by decide +kernel
  have offered : (Connection.journal seen).offered.map WriteEntry.callback = [5] := by decide +kernel
  obtain ⟨concluded, empty, result, same, agrees⟩ := nothing_left_behind bound
    (.refl busyServer []) run (by simpa using alone) (by simpa using own) fresh
  rw [returned] at same
  obtain rfl := Returned.loop.inj (Option.some.inj same)
  have told := concluded.calledBack
  rw [List.nil_append] at told
  rw [offered] at told
  exact ⟨run, returned, enrolled, concluded.closedOnce 1 enrolled (Connection.not_dismissed sought),
    List.perm_singleton.1 told, empty, agrees.1 ⟨_, rfl⟩⟩

end DatagramMux.Server
