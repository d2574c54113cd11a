import DatagramMux.Proofs.Connection.Lifecycle
import DatagramMux.Proofs.Flusher.Successes
import DatagramMux.Proofs.Link.Flushing
import DatagramMux.Proofs.Machine.Script

/-!
# What reaches the wire

The flusher hands one write after the other to the endpoint, which sends it at once or parks it until
the socket is writable. What the operating system has accepted in the end are the datagrams of the
writes whose callbacks were told that they succeeded, each once, in the order in which the writes were
submitted, and no write was overtaken by a later one.
-/

namespace DatagramMux

/-- The datagram of a write with its receiver. -/
def WriteEntry.wire {Callback : Type} (entry : WriteEntry Callback) : SocketAddress × Bytes :=
  (entry.address, entry.datagram)

/-- What the endpoint gets to see of a write. -/
def WriteEntry.outgoing {Callback : Type} (write : WriteEntry Callback × Nat) : Udp.Outgoing Nat :=
  ⟨write.1.address, write.1.datagram, write.2⟩

namespace Link

open Component
open Flusher (successes)

variable {Callback Session : Type}
variable {first last : Link Callback Session} {moves : List (LinkMove Callback Session)}
variable {stack : List (LinkFrame Callback Session)}

/-! ## Between the flusher and the endpoint -/

/-- Whether somebody else than the endpoint reports the completion of a write. -/
def forges : LinkMove Callback Session → Bool
  | .enter (.connection (.complete _ _)) => true
  | _ => false

/-- What the endpoint is given by a move is what the flusher hands to it by the same move. -/
theorem given_sublist_of_move (move : LinkMove Callback Session) :
    ((udpMoves move).filterMap Udp.given?).Sublist
      (((flusherMoves move).filterMap Flusher.written?).map WriteEntry.outgoing) := by
  cases move with
  | work task =>
      cases task with
      | endpoint task =>
          cases task with
          | write ticket entry => exact List.Sublist.refl _
          | _ => exact List.nil_sublist _
      | udp task =>
          cases task with
          | unlock report? => cases report? <;> exact List.nil_sublist _
          | _ => exact List.nil_sublist _
      | connection | answer => exact List.nil_sublist _
  | «begin» | finish => exact List.nil_sublist _
  | enter method => cases method <;> exact List.nil_sublist _

theorem given_sublist_written (moves : List (LinkMove Callback Session)) :
    (Udp.given (moves.flatMap udpMoves)).Sublist ((journal moves).written.map WriteEntry.outgoing) := by
  rw [journal, Flusher.Journal.written_after]
  induction moves with
  | nil => exact List.Sublist.refl _
  | cons move moves ih =>
      rw [List.flatMap_cons, List.flatMap_cons, Udp.given, List.filterMap_append,
        List.filterMap_append, List.map_append]
      exact (given_sublist_of_move move).append ih

/-- What the flusher gets to know by a move is what the endpoint reports by the same move. -/
theorem completion_of_move {move : LinkMove Callback Session} (own : forges move = false) :
    (flusherMoves move).filterMap Flusher.completion? =
      (udpMoves move).filterMap Udp.reported? := by
  have finished (request : Connection.Request Callback Session) (reply : Connection.Reply request) :
      (Connection.flusherMoves (.finish request reply)).filterMap Flusher.completion? = [] := by
    cases request with
    | flusher request => cases request <;> rfl
    | _ => rfl
  cases move with
  | work task =>
      cases task with
      | connection task => cases task <;> rfl
      | udp task =>
          cases task with
          | unlock report? => cases report? <;> rfl
          | _ => rfl
      | endpoint task => cases task <;> rfl
      | answer request reply => exact finished request reply
  | «begin» request =>
      cases request with
      | flusher request => cases request <;> rfl
      | _ => rfl
  | finish request reply => exact finished request reply
  | enter method =>
      cases method with
      | connection method => cases method <;> first | rfl | cases own
      | writable | shutdownOutput | closeEndpoint => rfl

theorem completions_eq_reported (own : ∀ move ∈ moves, forges move = false) :
    Flusher.completions (moves.flatMap flusherMoves) = Udp.reported (moves.flatMap udpMoves) := by
  induction moves with
  | nil => rfl
  | cons move moves ih =>
      have here := completion_of_move (own move List.mem_cons_self)
      have later := ih fun other member => own other (List.mem_cons_of_mem move member)
      rw [List.flatMap_cons, List.flatMap_cons, Flusher.completions, Udp.reported,
        List.filterMap_append, List.filterMap_append, here]
      exact congrArg _ later

/-- A ticket comes back to the flusher only when the endpoint releases its lock with a report. -/
theorem eq_unlock_of_complete {move : LinkMove Callback Session} (own : forges move = false)
    {ticket : Nat} {completion : Flusher.Completion}
    (reports : .enter (.complete ticket completion) ∈ flusherMoves move) :
    move = .work (.udp (.unlock (some (ticket, completion)))) := by
  have heard : (ticket, completion) ∈ (udpMoves move).filterMap Udp.reported? := by
    rw [← completion_of_move own]
    exact List.mem_filterMap.2 ⟨_, reports, rfl⟩
  obtain ⟨reporting, member, reported⟩ := List.mem_filterMap.1 heard
  unfold udpMoves at member
  split at member
  · rcases List.mem_cons.1 member with rfl | member
    · cases reported
    · rcases List.mem_cons.1 member with rfl | member
      · cases reported
        rfl
      · obtain rfl := List.mem_singleton.1 member
        cases reported
  all_goals first
    | obtain rfl := List.mem_singleton.1 member
      cases reported
    | cases member

/-! ## What is kept -/

theorem custody_of_run (unused : first.udp.parked = none)
    (run : Run (component Callback Session) first [] moves last stack) :
    Udp.Custody first.udp.socket.sent (moves.flatMap udpMoves) last.udp
      (stack.filterMap udpFrame?) := by
  have start : Stacked ([] : List (LinkFrame Callback Session)) ∧
      Udp.Custody first.udp.socket.sent [] first.udp [] := ⟨stacked_nil, .start unused⟩
  have both := run.invariant_of_step (fun moves (link : Link Callback Session) stack =>
    Stacked stack ∧ Udp.Custody first.udp.socket.sent (moves.flatMap udpMoves) link.udp
      (stack.filterMap udpFrame?)) ?_ start
  · exact both.2
  · rintro moves link stack move next nextStack step ⟨stacked, custody⟩
    refine ⟨stacked.step step, ?_⟩
    obtain ⟨taken, put, rest, rfl, rfl, exchange, below⟩ :=
      step.exchange_of_tail lies_of_isInside stacked
    obtain ⟨udp, same, onward⟩ := exchange_udp exchange
    rw [List.filterMap_append, udpFrame?_below below, List.append_nil] at custody ⊢
    rw [List.flatMap_append, List.flatMap_singleton]
    exact (custody.same same).run onward

/-- The endpoint is given different tickets, all of which were handed over. -/
theorem given_tickets {config : Config} (opened : Connection.new config = .ok first.connection)
    (run : Run (component Callback Session) first [] moves last stack) :
    ((Udp.given (moves.flatMap udpMoves)).map Udp.Outgoing.token).Nodup ∧
      ∀ outgoing ∈ Udp.given (moves.flatMap udpMoves), ∃ entry,
        (journal moves).handed[outgoing.token]? = some entry ∧ outgoing.wire = entry.wire := by
  have sound := Flusher.Sound.of_run (flusher_run opened run)
  have written := sound.ticketed.written_prefix
  have given := given_sublist_written moves
  have tickets : ((journal moves).written.map WriteEntry.outgoing).map Udp.Outgoing.token =
      (journal moves).written.map Prod.snd := List.map_map
  constructor
  · exact (tickets ▸ given.map Udp.Outgoing.token).nodup sound.ticketed.nodup_written
  · intro outgoing member
    obtain ⟨⟨entry, ticket⟩, begun, rfl⟩ := List.mem_map.1 (given.subset member)
    exact ⟨entry, List.mk_mem_zipIdx_iff_getElem?.1 (written.subset begun), rfl⟩

/-- The flusher notes what the endpoint reports, provided that it does not come too early or twice. -/
theorem heard_of_step {link next : Link Callback Session} {move : LinkMove Callback Session}
    {nextStack : List (LinkFrame Callback Session)} (stacked : Stacked stack)
    (nested : Flusher.Nested link.connection.flusher (stack.filterMap flusherFrame?))
    (step : Step (component Callback Session) link stack move next nextStack)
    (own : forges move = false)
    (timely : ∀ ticket completion, move = .work (.udp (.unlock (some (ticket, completion)))) →
      Flusher.Timely (moves.flatMap flusherMoves) ticket)
    (heard : Flusher.Heard (moves.flatMap flusherMoves) (stack.filterMap flusherFrame?)) :
    Flusher.Heard ((moves ++ [move]).flatMap flusherMoves) (nextStack.filterMap flusherFrame?) := by
  rw [List.flatMap_append, List.flatMap_singleton]
  refine heard.run nested (stacked.flusher step) ?_
  intro earlier ticket completion first
  have reports : .enter (.complete ticket completion) ∈ flusherMoves move :=
    first.subset (List.mem_append_right _ (List.mem_singleton_self _))
  -- It is the last of these moves, and the only one: the endpoint reports when it has released its lock.
  obtain rfl := eq_unlock_of_complete own reports
  obtain rfl : earlier = [] := by
    have length := first.length_le
    rw [List.length_append] at length
    exact List.eq_nil_of_length_eq_zero (Nat.le_zero.1 (Nat.le_of_add_le_add_right length))
  rw [List.append_nil]
  exact timely ticket completion rfl

/-- The flusher notes all that the endpoint reports. -/
theorem heard_of_run {config : Config} (opened : Connection.new config = .ok first.connection)
    (unused : first.udp.parked = none)
    (run : Run (component Callback Session) first [] moves last stack)
    (own : ∀ move ∈ moves, forges move = false) :
    Flusher.Heard (moves.flatMap flusherMoves) (stack.filterMap flusherFrame?) := by
  refine run.invariant_of_reached (fun moves _ stack => (∀ move ∈ moves, forges move = false) →
    Flusher.Heard (moves.flatMap flusherMoves) (stack.filterMap flusherFrame?)) ?_
    (fun _ => .start) own
  intro moves link stack move next nextStack reached step ih own
  have ownEarlier : ∀ move ∈ moves, forges move = false :=
    fun other member => own other (List.mem_append_left _ member)
  have ownMove : forges move = false := own move (List.mem_append_right _ (List.mem_singleton_self _))
  have stacked : Stacked stack :=
    reached.invariant (fun step stacked => Stacked.step step stacked) stacked_nil
  have nested := (Flusher.Serial.of_run (flusher_run opened reached)).nested
  refine heard_of_step stacked nested step ownMove ?_ (ih ownEarlier)
  rintro ticket completion rfl
  cases step with
  | work task rest free =>
      obtain ⟨distinct, known⟩ := given_tickets opened reached
      have reporting : (ticket, completion) ∈
          Udp.reports ((.task (.udp (.unlock (some (ticket, completion)))) :: rest :
            List (LinkFrame Callback Session)).filterMap udpFrame?) := List.mem_cons_self
      obtain ⟨given, fresh⟩ := (custody_of_run unused reached).fresh distinct reporting
      obtain ⟨outgoing, member, rfl⟩ := List.mem_map.1 given
      obtain ⟨entry, handed, -⟩ := known outgoing member
      refine ⟨(List.getElem?_eq_some_iff.1 handed).1, ?_⟩
      rw [completions_eq_reported ownEarlier]
      exact fresh

/-! ## The wire -/

theorem map_wire_eq {accepted : List (Udp.Outgoing Nat)} {succeeded : List (WriteEntry Callback)}
    (tokens : accepted.map Udp.Outgoing.token = List.range succeeded.length)
    (known : ∀ outgoing ∈ accepted, ∃ entry,
      succeeded[outgoing.token]? = some entry ∧ outgoing.wire = entry.wire) :
    accepted.map Udp.Outgoing.wire = succeeded.map WriteEntry.wire := by
  have length : accepted.length = succeeded.length := by
    simpa using congrArg List.length tokens
  refine List.ext_getElem (by simpa using length) fun position within withinOther => ?_
  rw [List.length_map] at within withinOther
  have token : (accepted[position]).token = position := by
    have here : (accepted.map Udp.Outgoing.token)[position]? =
        (List.range succeeded.length)[position]? := by rw [tokens]
    simpa [within, withinOther] using here
  obtain ⟨entry, found, same⟩ := known _ (List.getElem_mem within)
  rw [token, List.getElem?_eq_getElem withinOther] at found
  obtain rfl := Option.some.inj found
  rw [List.getElem_map, List.getElem_map, same]

/--
Whenever a connection on a datagram endpoint has been left, the operating system has accepted just the
datagrams of the writes whose callbacks were told of success, in the order in which these writes were
submitted and their callbacks were called, and they are the first ones that were submitted. Neither
parking nor closing nor what the callbacks do changes that, provided that nobody but the endpoint
reports what became of a write.
-/
theorem wire_carries_successes [DecidableEq Callback] {config : Config}
    (opened : Connection.new config = .ok first.connection) (unused : first.udp.parked = none)
    (run : Run (component Callback Session) first [] moves last [])
    (own : moves.any forges = false) :
    ∃ succeeded, succeeded <+: (journal moves).offered ∧
      successes (journal moves).told = succeeded.map WriteEntry.callback ∧
        last.udp.socket.sent = first.udp.socket.sent ++ succeeded.map WriteEntry.wire ∧
          (((journal moves).offered.map WriteEntry.callback).Nodup →
            succeeded = (journal moves).offered.filter
              fun entry => entry.callback ∈ successes (journal moves).told) := by
  have own : ∀ move ∈ moves, forges move = false := by simpa using own
  have flushed := flusher_run opened run
  have sound : Flusher.Sound (journal moves) last.connection.flusher 0 := .of_run flushed
  have final : Flusher.Final (journal moves) last.connection.flusher 0 := .of_run flushed
  obtain ⟨succeeded, handed, tickets, told⟩ := Flusher.first_succeed sound final
  have offered : succeeded <+: (journal moves).offered :=
    handed.trans ((Flusher.Serial.of_run flushed).handed_prefix_offered sound)
  have heard := (heard_of_run opened unused run own).all
  obtain ⟨-, known⟩ := given_tickets opened run
  obtain ⟨accepted, ofGiven, sent, tokens⟩ := (custody_of_run unused run).sent
  -- What the endpoint has reported is what the flusher has noted.
  have reported : Udp.reported (moves.flatMap udpMoves) = (journal moves).completed := by
    rw [← completions_eq_reported own, ← heard]
    exact List.append_nil _
  have inOrder : accepted.map Udp.Outgoing.token = List.range succeeded.length := by
    rw [tokens, reported, ← tickets]
    exact congrArg successes (List.append_nil _)
  refine ⟨succeeded, offered, told, ?_, fun distinct => ?_⟩
  · rw [sent, map_wire_eq inOrder]
    intro outgoing member
    obtain ⟨entry, found, same⟩ := known outgoing (ofGiven member)
    have within : outgoing.token < succeeded.length := by
      rw [← List.mem_range, ← inOrder]
      exact List.mem_map_of_mem member
    obtain ⟨others, joined⟩ := handed
    rw [← joined, List.getElem?_append_left within] at found
    exact ⟨entry, found, same⟩
  · rw [told]
    exact (Flusher.filter_mem_map distinct offered).symm

/-- A connection on a socket that will block twice, and then accept one write and refuse another. -/
def blocking : Link Nat Nat where
  connection := {}
  udp.socket.address := default
  udp.socket.sendAnswers := [some .wouldBlock, some .wouldBlock, none, some .connectionRefused]

/-- A write of two buffers to somebody else than the socket itself. -/
def greeting (callback : Nat) : WriteEntry Nat :=
  ⟨callback, .v4 10 0 0 9 7, [[1], [callback.toUInt8]]⟩

/--
The first write is parked and parked again before it is sent. Its callback submits the third write, and
the second one fails, so that the third one is refused.
-/
def parkedTwice : List (Choice (Connection.Request Nat Nat) (Method Nat) Connection.Reply) :=
  List.flatten
    [[.enter (.connection (.write (greeting 1)))], List.replicate 14 .proceed,
      [.enter (.connection (.write (greeting 2)))], List.replicate 5 .proceed,
      [.enter .writable], List.replicate 3 .proceed, [.enter .writable], List.replicate 7 .proceed,
      [.enter (.connection (.write (greeting 3)))], List.replicate 5 .proceed,
      [.finish (Connection.answers .empty)], List.replicate 13 .proceed,
      [.finish (Connection.answers .empty)], List.replicate 4 .proceed,
      [.finish (Connection.answers .empty)], List.replicate 21 .proceed]

set_option maxRecDepth 4000 in
theorem wire_after_parkedTwice :
    let trace := Trace.follow (component Nat Nat) blocking parkedTwice
    trace.stack = [] ∧ (journal trace.moves).told.map Prod.fst = [1, 2, 3] ∧
      trace.state.udp.socket.sent = [(.v4 10 0 0 9 7, [1, 1])] ∧
        trace.state.udp.socket.sent = ((journal trace.moves).offered.filter
          fun entry => entry.callback ∈ successes (journal trace.moves).told).map
            WriteEntry.wire := by
  intro trace
  have run : Run (component Nat Nat) blocking [] trace.moves trace.state [] :=
    Trace.run_follow (component Nat Nat) blocking parkedTwice
  have opened : Connection.new {} = .ok blocking.connection := rfl
  obtain ⟨succeeded, -, -, sent, named⟩ := wire_carries_successes opened rfl run (by decide)
  have distinct : ((journal trace.moves).offered.map WriteEntry.callback).Nodup := by decide
  rw [named distinct] at sent
  exact ⟨rfl, rfl, rfl, sent⟩

end Link

end DatagramMux
