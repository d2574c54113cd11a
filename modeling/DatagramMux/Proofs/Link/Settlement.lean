import DatagramMux.Proofs.Endpoint.Completions
import DatagramMux.Proofs.Link.Wire
import DatagramMux.Proofs.Machine.Events

/-!
# Every write of a closed connection is settled

The socket of an endpoint may be in other hands while a connection uses it: an event loop waits at
it, datagrams arrive, and the interest in them is taken back. None of that concerns the output. The
flusher is a patient writer, so the endpoint keeps a ledger of its writes, and when the endpoint was
closed and everybody has returned, nothing is parked and every completion was reported. The flusher has
noted all of them, and so every callback was called, once.
-/

namespace DatagramMux

namespace Udp

/-- What may take the place of an endpoint's input. -/
structure Intake where
  socket : Socket
  interest : Bool

/-- An endpoint after something has happened to its input; what was sent stays sent. -/
def adjust {Token : Type} (udp : Udp Token) (intake : Intake) : Udp Token :=
  { udp with
    socket := { intake.socket with sent := udp.socket.sent }
    interest := intake.interest }

theorem sameOutput_adjust {Token : Type} (udp : Udp Token) (intake : Intake) :
    udp.SameOutput (udp.adjust intake) := ⟨rfl, rfl, rfl⟩

end Udp

namespace Link

open Component

variable {Callback Session : Type}

def adjust (link : Link Callback Session) (intake : Udp.Intake) : Link Callback Session :=
  { link with udp := link.udp.adjust intake }

variable {link next : Link Callback Session} {move : LinkMove Callback Session}
variable {taken put stack nextStack : List (LinkFrame Callback Session)}

/-! ## What the endpoint is asked -/

/-- Whether a request is met by the endpoint. -/
def toEndpoint : Connection.Request Callback Session → Bool
  | .fill _ | .interest | .shutdownOutput | .isOpen | .closeEndpoint | .flusher (.write _ _) => true
  | _ => false

/-- Nobody else is about to meet what is met by the endpoint. -/
def Outward (stack : List (LinkFrame Callback Session)) : Prop :=
  ∀ request, .call request ∈ stack → toEndpoint request = false

theorem outward_map (frames : List (Connection.ConnectionFrame Callback Session)) :
    Outward (frames.map liftConnection) := by
  intro request member
  obtain ⟨frame, -, lifted⟩ := List.mem_map.1 member
  cases frame with
  | task task => cases lifted
  | call asked =>
      cases asked with
      | flusher asked =>
          cases asked with
          | write ticket entry => cases lifted
          | notify | failure =>
              cases lifted
              rfl
      | fill | interest | shutdownOutput | isOpen | closeEndpoint => cases lifted
      | acquire | release | create | assign | process | discard | sweep =>
          cases lifted
          rfl
  | inside asked => cases lifted

theorem outward_tasks (tasks : List (Task Callback Session)) :
    Outward (tasks.map Frame.task : List (LinkFrame Callback Session)) := by
  intro request member
  obtain ⟨task, -, same⟩ := List.mem_map.1 member
  cases same

theorem outward_endpointStep (udp : Udp Nat) (task : EndpointTask Callback) :
    Outward (endpointStep udp task : Udp Nat × List (LinkFrame Callback Session)).2 := by
  cases task with
  | fill buffer =>
      simp only [endpointStep]
      split
      · exact outward_tasks [.endpoint (.receive buffer)]
      · exact outward_map _
  | isOpen =>
      simp only [endpointStep]
      split
      · exact outward_map _
      · exact outward_tasks [.endpoint .isOutputOpen]
  | receive | interest | isOutputOpen => exact outward_map _
  | write | shutdownOutput | close => exact outward_tasks [_, _]

theorem outward_of_exchange
    (exchange : Exchange (component Callback Session) link move taken next put) : Outward put := by
  cases exchange with
  | work task free =>
      cases task with
      | connection task => exact outward_map _
      | udp task =>
          rcases put_of_udpStep link.udp task with ⟨⟨ticket, completion⟩, rfl⟩ | ⟨-, further, put⟩
          · exact outward_tasks [.connection (Connection.begun (.complete ticket completion))]
          · have tasks : ((component Callback Session).step link (.udp task)).2 =
                (further.map .udp).map .task := by
              rw [step_udp, put, flatMap_liftUdp, List.map_map]
              rfl
            exact tasks ▸ outward_tasks _
      | endpoint task => exact outward_endpointStep link.udp task
      | answer request reply => exact outward_map _
  | «begin» request => exact fun other member => (nomatch member)
  | finish request reply => exact outward_map _
  | enter method =>
      cases method with
      | connection method => exact outward_map _
      | writable | shutdownOutput | closeEndpoint => exact outward_tasks [_]

/-- The endpoint is given just what the flusher begins to write. -/
theorem given_of_move (own : ∀ request, move = .begin request → toEndpoint request = false) :
    (udpMoves move).filterMap Udp.given? =
      ((flusherMoves move).filterMap Flusher.written?).map WriteEntry.outgoing := by
  have finished (request : Connection.Request Callback Session) (reply : Connection.Reply request) :
      (Connection.flusherMoves (.finish request reply)).filterMap Flusher.written? = [] := by
    cases request with
    | flusher request => cases request <;> rfl
    | _ => rfl
  cases move with
  | work task =>
      cases task with
      | connection task => cases task <;> rfl
      | udp task =>
          cases task with
          | unlock report? => cases report? <;> rfl
          | _ => rfl
      | endpoint task => cases task <;> rfl
      | answer request reply =>
          change [] = ((Connection.flusherMoves (.finish request reply)).filterMap _).map _
          rw [finished]
          rfl
  | «begin» request =>
      have other := own request rfl
      cases request with
      | flusher request => cases request <;> first | rfl | cases other
      | _ => rfl
  | finish request reply =>
      change [] = ((Connection.flusherMoves (.finish request reply)).filterMap _).map _
      rw [finished]
      rfl
  | enter method =>
      cases method with
      | connection method => cases method <;> rfl
      | writable | shutdownOutput | closeEndpoint => rfl

/-- A write is given to the endpoint by a move of its own. -/
theorem eq_write_of_given {earlier : List (Udp.UdpMove Nat)} {giving : Udp.UdpMove Nat}
    (first : earlier ++ [giving] <+: udpMoves move) (gives : (Udp.given? giving).isSome = true) :
    earlier = [] ∧ ∃ ticket entry, move = .work (.endpoint (.write ticket entry)) := by
  have member : giving ∈ udpMoves move :=
    first.subset (List.mem_append_right _ (List.mem_singleton_self _))
  have single (only : Udp.UdpMove Nat) (alone : udpMoves move = [only]) :
      earlier = [] ∧ giving = only := by
    rw [alone] at first member
    have length := first.length_le
    rw [List.length_append, List.length_singleton, List.length_singleton] at length
    exact ⟨List.eq_nil_of_length_eq_zero (by omega), List.mem_singleton.1 member⟩
  cases move with
  | work task =>
      cases task with
      | endpoint task =>
          cases task with
          | write ticket entry => exact ⟨(single _ rfl).1, ticket, entry, rfl⟩
          | shutdownOutput | close =>
              obtain ⟨-, rfl⟩ := single _ rfl
              cases gives
          | _ => cases member
      | udp task =>
          cases task with
          | unlock report? =>
              cases report? with
              | none =>
                  obtain ⟨-, rfl⟩ := single _ rfl
                  cases gives
              | some report =>
                  rcases List.mem_cons.1 member with rfl | member
                  · cases gives
                  · rcases List.mem_cons.1 member with rfl | member
                    · cases gives
                    · obtain rfl := List.mem_singleton.1 member
                      cases gives
          | _ =>
              obtain ⟨-, rfl⟩ := single _ rfl
              cases gives
      | connection | answer => cases member
  | «begin» | finish => cases member
  | enter method =>
      cases method with
      | connection method => cases member
      | writable | shutdownOutput | closeEndpoint =>
          obtain ⟨-, rfl⟩ := single _ rfl
          cases gives

/-! ## What is kept -/

/-- The flusher and the endpoint agree on what has become of the writes. -/
structure Tended (initial : List Parcel) (moves : List (LinkMove Callback Session))
    (link : Link Callback Session) (stack : List (LinkFrame Callback Session)) : Prop where
  stacked : Stacked stack
  outward : Outward stack
  asked : ∀ request, .begin request ∈ moves → toEndpoint request = false
  flushed : Run (Flusher.component Callback) Flusher.new [] (moves.flatMap flusherMoves)
    link.connection.flusher (stack.filterMap flusherFrame?)
  given : Udp.given (moves.flatMap udpMoves) = (journal moves).written.map WriteEntry.outgoing
  reported : Flusher.completions (moves.flatMap flusherMoves) = Udp.reported (moves.flatMap udpMoves)
  heard : Flusher.Heard (moves.flatMap flusherMoves) (stack.filterMap flusherFrame?)
  kept : Udp.Kept initial (moves.flatMap udpMoves) link.udp ↑(stack.filterMap udpFrame?)
  closing : Udp.Closing (moves.flatMap udpMoves) link.udp ↑(stack.filterMap udpFrame?)

namespace Tended

variable {initial : List Parcel} {moves : List (LinkMove Callback Session)}

theorem start (link : Link Callback Session) (new : link.connection.flusher = Flusher.new)
    (unused : link.udp.parked = none) : Tended link.udp.socket.sent [] link [] where
  stacked := stacked_nil
  outward _ member := nomatch member
  asked _ member := nomatch member
  flushed := new ▸ .refl _ _
  given := rfl
  reported := rfl
  heard := .start
  kept := .start link.udp unused
  closing := .start link.udp

theorem tokens (tended : Tended initial moves link stack) :
    (Udp.given (moves.flatMap udpMoves)).map Udp.Outgoing.token =
      (journal moves).written.map Prod.snd := by
  rw [tended.given, List.map_map]
  rfl

theorem nodup_tokens (tended : Tended initial moves link stack) :
    ((Udp.given (moves.flatMap udpMoves)).map Udp.Outgoing.token).Nodup := by
  rw [tended.tokens]
  exact (Flusher.Sound.of_run tended.flushed).ticketed.nodup_written

/-- When the flusher begins to write, all earlier writes were completed. -/
theorem ready {ticket : Nat} {entry : WriteEntry Callback}
    {rest : List (LinkFrame Callback Session)}
    (tended : Tended initial moves link (.task (.endpoint (.write ticket entry)) :: rest)) :
    Udp.Ready (moves.flatMap udpMoves) := by
  refine ⟨tended.nodup_tokens, fun previous latest => ?_⟩
  have nested := (Flusher.Serial.of_run tended.flushed).nested
  obtain ⟨-, unused⟩ := nested.top _ rfl
  have none := (Flusher.Sound.of_run tended.flushed).uncompleted_eq_nil unused
  have written : previous.token ∈ (journal moves).written.map Prod.snd := by
    rw [← tended.tokens]
    exact List.mem_map_of_mem (List.mem_of_getLast? latest)
  have tickets := Flusher.Journal.uncompleted_tickets (journal moves)
  rw [journal, none, ← journal] at tickets
  have completed : previous.token ∈ (journal moves).completed.map Prod.fst := by
    by_contra fresh
    have left : previous.token ∈ ((journal moves).written.map Prod.snd).filter
        (· ∉ (journal moves).completed.map Prod.fst) :=
      List.mem_filter.2 ⟨written, by simpa using fresh⟩
    rw [← tickets] at left
    cases left
  rw [← tended.reported, ← tended.heard.all, List.map_append]
  exact List.mem_append_left _ completed

/-- What the endpoint is about to report was given to it and has not been reported. -/
theorem timely {ticket : Nat} {completion : Flusher.Completion}
    {rest : List (LinkFrame Callback Session)}
    (tended : Tended initial moves link
      (.task (.udp (.unlock (some (ticket, completion)))) :: rest)) :
    Flusher.Timely (moves.flatMap flusherMoves) ticket := by
  have below : rest.filterMap udpFrame? = [] := udpFrame?_below tended.stacked
  have shown : (.task (.udp (.unlock (some (ticket, completion)))) :: rest :
      List (LinkFrame Callback Session)).filterMap udpFrame? =
        .task (.unlock (some (ticket, completion))) :: rest.filterMap udpFrame? := rfl
  obtain ⟨fates, waits, reporting, ledger⟩ := tended.kept
  have dues := ledger.dues
  rw [shown, below] at dues
  obtain rfl : reporting = [(ticket, completion)] := Multiset.coe_eq_singleton.1 dues
  have tokens := ledger.tokens
  have distinct := tended.nodup_tokens
  rw [tokens] at distinct
  constructor
  · apply (Flusher.Sound.of_run tended.flushed).ticketed.lt_of_written
    change ticket ∈ (journal moves).written.map Prod.snd
    rw [← tended.tokens, tokens]
    exact List.mem_append_right _ List.mem_cons_self
  · rw [tended.reported]
    intro before
    exact List.disjoint_of_nodup_append distinct before List.mem_cons_self

theorem step (step : Step (component Callback Session) link stack move next nextStack)
    (own : forges move = false) (tended : Tended initial moves link stack) :
    Tended initial (moves ++ [move]) next nextStack := by
  have nested := (Flusher.Serial.of_run tended.flushed).nested
  have notForeign : ∀ request, move = .begin request → toEndpoint request = false := by
    rintro request rfl
    cases step
    exact tended.outward request List.mem_cons_self
  have heard : Flusher.Heard ((moves ++ [move]).flatMap flusherMoves)
      (nextStack.filterMap flusherFrame?) := by
    refine heard_of_step tended.stacked nested step own ?_ tended.heard
    rintro ticket completion rfl
    cases step
    exact tended.timely
  have ready : ∀ earlier giving, earlier ++ [giving] <+: udpMoves move →
      (Udp.given? giving).isSome = true → Udp.Ready (moves.flatMap udpMoves ++ earlier) := by
    intro earlier giving first gives
    obtain ⟨rfl, ticket, entry, rfl⟩ := eq_write_of_given first gives
    rw [List.append_nil]
    cases step
    exact tended.ready
  obtain ⟨taken, put, rest, rfl, rfl, exchange, below⟩ :=
    step.exchange_of_tail lies_of_isInside tended.stacked
  obtain ⟨udp, same, onward⟩ := exchange_udp exchange
  have kept := tended.kept.same same
  have closing := tended.closing.same same
  rw [List.filterMap_append, udpFrame?_below below, List.append_nil] at kept closing
  refine ⟨tended.stacked.step step, ?_, ?_, ?_, ?_, ?_, heard, ?_, ?_⟩
  · intro request member
    rcases List.mem_append.1 member with new | old
    · exact outward_of_exchange exchange request new
    · exact tended.outward request (List.mem_append_right _ old)
  · intro request member
    rcases List.mem_append.1 member with earlier | now
    · exact tended.asked request earlier
    · exact notForeign request (List.mem_singleton.1 now).symm
  · rw [List.flatMap_append, List.flatMap_singleton]
    exact tended.flushed.append (tended.stacked.flusher step)
  · have given := tended.given
    rw [journal, Flusher.Journal.written_after] at given ⊢
    rw [List.flatMap_append, List.flatMap_append, List.flatMap_singleton, List.flatMap_singleton,
      Udp.given, List.filterMap_append, List.filterMap_append, List.map_append,
      given_of_move notForeign, ← given, Udp.given]
  · rw [List.flatMap_append, List.flatMap_append, List.flatMap_singleton, List.flatMap_singleton,
      Flusher.completions, Udp.reported, List.filterMap_append, List.filterMap_append,
      completion_of_move own, ← Flusher.completions, tended.reported, Udp.reported]
  · rw [List.filterMap_append, udpFrame?_below below, List.append_nil, List.flatMap_append,
      List.flatMap_singleton]
    exact kept.run onward ready
  · rw [List.filterMap_append, udpFrame?_below below, List.append_nil, List.flatMap_append,
      List.flatMap_singleton]
    exact closing.run onward

theorem adjust (tended : Tended initial moves link stack) (intake : Udp.Intake) :
    Tended initial moves (link.adjust intake) stack where
  stacked := tended.stacked
  outward := tended.outward
  asked := tended.asked
  flushed := tended.flushed
  given := tended.given
  reported := tended.reported
  heard := tended.heard
  kept := tended.kept.same (Udp.sameOutput_adjust link.udp intake)
  closing := tended.closing.same (Udp.sameOutput_adjust link.udp intake)

/-- Nothing waits for a completion once the endpoint was closed and everybody has returned. -/
theorem uncompleted_eq_nil (tended : Tended initial moves link [])
    (closed : .work (.endpoint .close) ∈ moves) :
    link.udp.parked = none ∧ (journal moves).uncompleted = [] := by
  have asked : .enter .close ∈ moves.flatMap udpMoves :=
    List.mem_flatMap.2 ⟨_, closed, List.mem_singleton_self _⟩
  have empty : link.udp.parked = none := by
    rcases tended.closing.pending asked with ⟨frame, member, -⟩ | emptied
    · exact absurd member (Multiset.notMem_zero frame)
    · exact emptied.2
  refine ⟨empty, ?_⟩
  obtain ⟨fates, waits, reporting, ledger⟩ := tended.kept
  have inHand := ledger.inHand
  have dues := ledger.dues
  change ↑waits = Udp.outstanding link.udp 0 at inHand
  rw [Udp.outstanding, empty] at inHand
  obtain rfl : waits = [] := (Multiset.coe_eq_zero _).1 inHand
  obtain rfl : reporting = [] := (Multiset.coe_eq_zero _).1 dues
  have tokens := ledger.tokens
  have heard : (journal moves).completed ++ [] = _ := tended.heard.all
  rw [List.append_nil] at heard
  rw [List.map_nil, List.map_nil, List.append_nil, List.append_nil, tended.tokens,
    ← tended.reported, ← heard] at tokens
  apply List.map_eq_nil_iff.1
  rw [Flusher.Journal.uncompleted_tickets, List.filter_eq_nil_iff, tokens]
  intro ticket member
  simpa using member

end Tended

theorem tended_of_run {config : Config} {first last : Link Callback Session}
    {moves : List (LinkMove Callback Session)} {intakes : List Udp.Intake}
    (opened : Connection.new config = .ok first.connection) (unused : first.udp.parked = none)
    (run : EventRun (component Callback Session) adjust first [] moves intakes last stack)
    (own : ∀ move ∈ moves, forges move = false) :
    Tended first.udp.socket.sent moves last stack := by
  refine run.invariant (fun moves _ link stack => (∀ move ∈ moves, forges move = false) →
    Tended first.udp.socket.sent moves link stack) ?_ ?_ (fun _ => ?_) own
  · intro moves intakes link stack move next nextStack step before own
    have earlier := before fun other member => own other (List.mem_append_left _ member)
    exact earlier.step step (own move (List.mem_append_right _ (List.mem_singleton_self move)))
  · intro moves intakes link stack intake before own
    exact (before own).adjust intake
  · refine .start first ?_ unused
    rw [Connection.new_eq opened]
    rfl

end Link

end DatagramMux
