import DatagramMux.Link.Steps
import DatagramMux.Proofs.Connection.Flushing
import DatagramMux.Proofs.Endpoint.Custody

/-!
# The flusher and the output of a connection on a datagram endpoint

Whatever one thread does with a connection on a datagram endpoint, the flusher of the connection goes
through a run on one stack, and so does the output of the endpoint, except that datagrams are received
in between. What the flusher asks the endpoint to write is what the endpoint is given, and what the
endpoint reports is what the tickets are used for.
-/

namespace DatagramMux.Link

open Component

variable {Callback Session : Type}

/-- A move of a thread that uses a connection and its endpoint. -/
abbrev LinkMove (Callback Session : Type) :=
  Move (Task Callback Session) (Connection.Request Callback Session) (Method Callback)
    Connection.Reply

/-! ## Steps of the parts -/

theorem step_connection (link : Link Callback Session) (task : Connection.Task Callback Session) :
    (component Callback Session).step link (.connection task) =
      ({ link with connection := (Connection.step link.connection task).1 },
        (Connection.step link.connection task).2.map liftConnection) := rfl

theorem step_udp (link : Link Callback Session) (task : Udp.Task Nat) :
    (component Callback Session).step link (.udp task) =
      ({ link with udp := (Udp.step link.udp task).1 },
        (Udp.step link.udp task).2.flatMap liftUdp) := rfl

theorem step_endpoint (link : Link Callback Session) (task : EndpointTask Callback) :
    (component Callback Session).step link (.endpoint task) =
      ({ link with udp := (endpointStep link.udp task : Udp Nat × List (LinkFrame Callback Session)).1 },
        (endpointStep link.udp task).2) := rfl

/-! ## What lies below -/

/-- Whether a frame may lie below others. -/
def lies : LinkFrame Callback Session → Bool
  | .inside _ | .task (.connection .letGo) | .task (.endpoint .close) | .task (.answer _ _) => true
  | _ => false

theorem lies_of_isInside (frame : LinkFrame Callback Session) (under : frame.isInside = true) :
    lies frame = true := by
  cases frame with
  | task task => cases under
  | call request => cases under
  | inside request => rfl

theorem lies_liftConnection (frame : Connection.ConnectionFrame Callback Session)
    (below : Connection.lies frame = true) : lies (liftConnection frame) = true := by
  cases frame with
  | task task => cases task <;> first | rfl | cases below
  | call request => cases request <;> first | rfl | cases below
  | inside request => rfl

theorem tail_map_eq_nil {Part Whole : Type} {parts : List Part} (lift : Part → Whole)
    (single : parts.length ≤ 1) : (parts.map lift).tail = [] := by
  apply List.eq_nil_of_length_eq_zero
  rw [List.length_tail, List.length_map]
  omega

theorem lies_tail_connectionStep (connection : Connection Callback Session)
    (task : Connection.Task Callback Session) :
    ∀ frame ∈ (Connection.step connection task).2.tail, Connection.lies frame = true := by
  cases task with
  | flusher task =>
      have none : ((Connection.step connection (.flusher task)).2 :
          List (Connection.ConnectionFrame Callback Session)).tail = [] :=
        tail_map_eq_nil _ (Flusher.length_step_le connection.flusher task)
      rw [none]
      exact fun _ member => (nomatch member)
  | sweep task =>
      have none : ((Connection.step connection (.sweep task)).2 :
          List (Connection.ConnectionFrame Callback Session)).tail = [] :=
        tail_map_eq_nil _ (Connection.length_sweepStep_le connection.registry task)
      rw [none]
      exact fun _ member => (nomatch member)
  | react | shut | unregister | identify | route | vet | register | confirm | withdraw =>
      simp only [Connection.step]
      split <;> simp [Connection.lies, Connection.refill]
  | hold | letGo | borrow | countClosed | countUnregistered | countDatagram | countBytes
  | countUnidentified | countDeclined | countRefused | countCreated =>
      simp [Connection.step, Connection.lies, Connection.refill]

theorem length_resumed_le (request : Connection.Request Callback Session)
    (reply : Connection.Reply request) : (Connection.resumed request reply).length ≤ 1 := by
  cases request with
  | flusher request => cases request <;> first | exact Nat.le_refl 1 | exact Nat.zero_le 1
  | sweep request => cases request <;> first | exact Nat.le_refl 1 | exact Nat.zero_le 1
  | release buffer ending => cases ending <;> exact Nat.le_refl 1
  | fill buffer =>
      obtain ⟨buffer, cause | ⟨- | - | -⟩⟩ := reply <;> exact Nat.le_refl 1
  | isOpen => obtain - | - := reply <;> first | exact Nat.le_refl 1 | exact Nat.zero_le 1
  | create arrival identifier =>
      obtain error | - | session := reply <;> exact Nat.le_refl 1
  | process session arrival identifier =>
      obtain error | consumed := reply <;> exact Nat.le_refl 1
  | acquire | assign | discard => exact Nat.le_refl 1
  | interest | shutdownOutput | closeEndpoint => exact Nat.zero_le 1

theorem length_told_le (request : Connection.Request Callback Session)
    (reply : Connection.Reply request) : (told request reply).length ≤ 1 := by
  rw [told, List.length_map]
  exact length_resumed_le request reply

/-- Only what may lie below others does. -/
def Stacked (stack : List (LinkFrame Callback Session)) : Prop :=
  ∀ frame ∈ stack.tail, lies frame = true

section Exchange

variable {link next : Link Callback Session} {move : LinkMove Callback Session}
variable {taken put : List (LinkFrame Callback Session)}

theorem lies_of_length {frames : List (LinkFrame Callback Session)} (single : frames.length ≤ 1) :
    ∀ frame ∈ frames.tail, lies frame = true := by
  intro frame member
  rcases frames with - | ⟨first, - | ⟨second, frames⟩⟩
  · cases member
  · cases member
  · simp at single

theorem length_flatMap_liftUdp_le {frames : List (Udp.UdpFrame Nat)} (single : frames.length ≤ 1) :
    (frames.flatMap liftUdp : List (LinkFrame Callback Session)).length ≤ 1 := by
  rcases frames with - | ⟨frame, - | ⟨second, frames⟩⟩
  · exact Nat.zero_le 1
  · rw [List.flatMap_singleton]
    cases frame with
    | task task => exact Nat.le_refl 1
    | call request => exact Nat.le_refl 1
    | inside request => exact Nat.zero_le 1
  · simp at single

theorem lies_tail_endpointStep (udp : Udp Nat) (task : EndpointTask Callback) :
    ∀ frame ∈ (endpointStep udp task : Udp Nat × List (LinkFrame Callback Session)).2.tail,
      lies frame = true := by
  cases task with
  | fill buffer =>
      simp only [endpointStep]
      split
      · exact lies_of_length (Nat.le_refl 1)
      · exact lies_of_length (length_told_le _ _)
  | isOpen =>
      simp only [endpointStep]
      split
      · exact lies_of_length (length_told_le _ _)
      · exact lies_of_length (Nat.le_refl 1)
  | receive | interest | isOutputOpen => exact lies_of_length (length_told_le _ _)
  | write | shutdownOutput | close =>
      intro frame member
      obtain rfl := List.mem_singleton.1 member
      rfl

theorem lies_tail_exchange
    (exchange : Exchange (component Callback Session) link move taken next put) :
    ∀ frame ∈ put.tail, lies frame = true := by
  cases exchange with
  | work task free =>
      cases task with
      | connection task =>
          intro frame member
          rw [step_connection, ← List.map_tail] at member
          obtain ⟨part, inTail, rfl⟩ := List.mem_map.1 member
          exact lies_liftConnection part (lies_tail_connectionStep link.connection task part inTail)
      | udp task =>
          exact lies_of_length (length_flatMap_liftUdp_le (Udp.length_step_le link.udp task))
      | endpoint task => exact lies_tail_endpointStep link.udp task
      | answer request reply => exact lies_of_length (length_told_le request reply)
  | «begin» request => exact lies_of_length (Nat.le_refl 1)
  | finish request reply => exact lies_of_length (length_told_le request reply)
  | enter method => cases method <;> exact lies_of_length (Nat.le_refl 1)

end Exchange

theorem Stacked.step {link next : Link Callback Session} {move : LinkMove Callback Session}
    {stack nextStack : List (LinkFrame Callback Session)}
    (step : Step (component Callback Session) link stack move next nextStack)
    (stacked : Stacked stack) : Stacked nextStack := by
  obtain ⟨taken, put, rest, rfl, rfl, exchange, below⟩ :=
    step.exchange_of_tail lies_of_isInside stacked
  have above := lies_tail_exchange exchange
  intro frame member
  rcases put with - | ⟨first, put⟩
  · exact below frame (List.mem_of_mem_tail member)
  · rcases List.mem_append.1 member with inPut | inRest
    · exact above frame inPut
    · exact below frame inRest

/-! ## The flusher -/

/-- The frame of the flusher that a frame of the whole is. -/
def flusherFrame? : LinkFrame Callback Session → Option (Flusher.FlusherFrame Callback)
  | .task (.connection task) => Connection.flusherFrame? (.task task)
  | .task (.endpoint (.write ticket entry)) => some (.call (.write ticket entry))
  | .task (.answer request _) | .inside request => Connection.flusherFrame? (.inside request)
  | .call request => Connection.flusherFrame? (.call request)
  | .task (.udp _) | .task (.endpoint _) => none

/-- The moves of the flusher that a move of the whole is. -/
def flusherMoves : LinkMove Callback Session → List (Flusher.FlusherMove Callback)
  | .work (.connection task) => Connection.flusherMoves (.work task)
  | .work (.endpoint (.write ticket entry)) => [.begin (.write ticket entry)]
  | .work (.answer request reply) | .finish request reply =>
      Connection.flusherMoves (.finish request reply)
  | .work (.udp (.unlock (some (ticket, completion)))) => [.enter (.complete ticket completion)]
  | .begin request => Connection.flusherMoves (.begin request)
  | .enter (.connection method) => method.flusher?.toList.map .enter
  | .work (.udp _) | .work (.endpoint _) | .enter _ => []

/-- What has become of the writes of a connection. -/
def journal (moves : List (LinkMove Callback Session)) : Flusher.Journal Callback :=
  .after (moves.flatMap flusherMoves)

theorem filterMap_liftConnection (frames : List (Connection.ConnectionFrame Callback Session)) :
    (frames.map liftConnection).filterMap flusherFrame? =
      frames.filterMap Connection.flusherFrame? := by
  rw [List.filterMap_map]
  congr 1
  funext frame
  cases frame with
  | task task => rfl
  | call request =>
      cases request with
      | flusher request => cases request <;> rfl
      | _ => rfl
  | inside request => rfl

theorem filterMap_told (request : Connection.Request Callback Session)
    (reply : Connection.Reply request) :
    (told request reply).filterMap flusherFrame? =
      (Connection.resumed request reply).filterMap Connection.flusherFrame? :=
  filterMap_liftConnection (Connection.resumed request reply)

/-- The flusher may be entered whenever only frames that may lie below others are there. -/
theorem enterable_filterMap {rest : List (LinkFrame Callback Session)}
    (below : ∀ frame ∈ rest, lies frame = true) : Enterable (rest.filterMap flusherFrame?) := by
  have inside {request : Connection.Request Callback Session} {part : Flusher.FlusherFrame Callback}
      (shown : Connection.flusherFrame? (.inside request) = some part) : part.isInside = true := by
    have enterable : Enterable
        ([(.inside request : Connection.ConnectionFrame Callback Session)].filterMap
          Connection.flusherFrame?) := by
      apply Connection.enterable_filterMap
      intro frame member
      exact List.mem_singleton.1 member ▸ rfl
    apply enterable part
    rw [filterMap_singleton, shown]
    rfl
  intro part top
  obtain ⟨frame, member, shown⟩ := List.mem_filterMap.1 (List.mem_of_mem_head? top)
  have lying := below frame member
  unfold lies at lying
  split at lying
  · exact inside shown
  · cases shown
  · cases shown
  · exact inside shown
  · cases lying

/-- Unless a step of the endpoint is to report a completion, it leads to further steps only. -/
theorem put_of_udpStep (udp : Udp Nat) (task : Udp.Task Nat) :
    (∃ report, task = .unlock (some report)) ∨
      (∀ report, task ≠ .unlock (some report)) ∧
        ∃ further : List (Udp.Task Nat), (Udp.step udp task).2 = further.map .task := by
  cases task with
  | unlock report? =>
      cases report? with
      | none => exact .inr ⟨by rintro _ ⟨⟩, [], rfl⟩
      | some report => exact .inl ⟨report, rfl⟩
  | write outgoing =>
      refine .inr ⟨by rintro _ ⟨⟩, ?_⟩
      simp only [Udp.step]
      split <;> exact ⟨[_], rfl⟩
  | retry =>
      refine .inr ⟨by rintro _ ⟨⟩, ?_⟩
      simp only [Udp.step]
      split
      · exact ⟨[_], rfl⟩
      · split <;> exact ⟨[_], rfl⟩
  | lockForWrite | lockForRetry | closeInput | closeOutput | lockForClose | giveUp =>
      exact .inr ⟨by rintro _ ⟨⟩, [_], rfl⟩
  | shutdownOutput => exact .inr ⟨by rintro _ ⟨⟩, [], rfl⟩

theorem flatMap_liftUdp (further : List (Udp.Task Nat)) :
    ((further.map .task).flatMap liftUdp : List (LinkFrame Callback Session)) =
      further.map fun task => .task (.udp task) := by
  rw [List.flatMap_map]
  exact List.flatMap_pure_eq_map _ further

/-- Only when the endpoint is to write something, the flusher is concerned. -/
theorem filterMap_endpointStep (udp : Udp Nat) (task : EndpointTask Callback) :
    (endpointStep udp task : Udp Nat × List (LinkFrame Callback Session)).2.filterMap
      flusherFrame? =
        match task with
        | .write ticket entry => [.inside (.write ticket entry)]
        | _ => [] := by
  have fill (buffer : Buffer) (reply : Buffer × Except IoError Fill) :
      (told (.fill buffer) reply : List (LinkFrame Callback Session)).filterMap flusherFrame? =
        [] := by
    obtain ⟨buffer, cause | ⟨- | - | -⟩⟩ := reply <;> rfl
  have isOpen (reply : Bool) :
      (told .isOpen reply : List (LinkFrame Callback Session)).filterMap flusherFrame? = [] := by
    cases reply <;> rfl
  cases task with
  | fill buffer =>
      simp only [endpointStep]
      split
      · rfl
      · exact fill buffer _
  | receive buffer => exact fill buffer _
  | write | interest | shutdownOutput | close => rfl
  | isOpen =>
      simp only [endpointStep]
      split
      · exact isOpen true
      · rfl
  | isOutputOpen => exact isOpen udp.outputOpen

section Exchange

variable {link next : Link Callback Session} {move : LinkMove Callback Session}
variable {taken put : List (LinkFrame Callback Session)}

/-- Every move of the whole is some moves of the flusher. -/
theorem exchange_flusher {others : List (Flusher.FlusherFrame Callback)}
    (enterable : Enterable others)
    (exchange : Exchange (component Callback Session) link move taken next put) :
    Run (Flusher.component Callback) link.connection.flusher
      (taken.filterMap flusherFrame? ++ others) (flusherMoves move) next.connection.flusher
      (put.filterMap flusherFrame? ++ others) := by
  cases exchange with
  | work task free =>
      rw [filterMap_singleton]
      cases task with
      | connection task =>
          rw [step_connection, filterMap_liftConnection]
          exact Connection.work_flusher enterable task
      | udp task =>
          rcases put_of_udpStep link.udp task with ⟨report, rfl⟩ | ⟨other, further, put⟩
          · exact run_enter (Flusher.component Callback) _ (.complete report.1 report.2) enterable
          · have shown : ((Udp.step link.udp task).2.flatMap liftUdp :
                List (LinkFrame Callback Session)).filterMap flusherFrame? = [] := by
              rw [put, flatMap_liftUdp, List.filterMap_map]
              exact List.filterMap_eq_nil_iff.2 fun _ _ => rfl
            have silent : flusherMoves (.work (.udp task) : LinkMove Callback Session) = [] := by
              cases task with
              | unlock report? => cases report? <;> first | rfl | exact absurd rfl (other _)
              | _ => rfl
            rw [step_udp, shown, silent]
            exact .refl _ _
      | endpoint task =>
          rw [step_endpoint, filterMap_endpointStep]
          cases task with
          | write ticket entry =>
              exact run_begin (Flusher.component Callback) _ (.write ticket entry)
          | _ => exact .refl _ _
      | answer request reply =>
          change Run _ _ _ _ _ ((told request reply).filterMap flusherFrame? ++ others)
          rw [filterMap_told]
          exact Connection.finish_flusher request reply link.connection.flusher
  | «begin» request =>
      rw [filterMap_singleton, filterMap_singleton]
      exact Connection.begin_flusher request link.connection.flusher
  | finish request reply =>
      change Run _ _ _ _ _ ((told request reply).filterMap flusherFrame? ++ others)
      rw [filterMap_singleton, filterMap_told]
      exact Connection.finish_flusher request reply link.connection.flusher
  | enter method =>
      cases method with
      | connection method =>
          have shown : (begun (.connection method) :
              List (LinkFrame Callback Session)).filterMap flusherFrame? =
                (method.flusher?.map fun method => .task (Flusher.begun method)).toList := by
            cases method <;> rfl
          change Run _ _ _ _ _ ((begun (.connection method)).filterMap flusherFrame? ++ others)
          rw [shown]
          exact @Connection.enter_flusher _ Session _ enterable method link.connection.flusher
      | writable | shutdownOutput | closeEndpoint => exact .refl _ _

end Exchange

theorem Stacked.flusher {link next : Link Callback Session} {move : LinkMove Callback Session}
    {stack nextStack : List (LinkFrame Callback Session)}
    (step : Step (component Callback Session) link stack move next nextStack)
    (stacked : Stacked stack) :
    Run (Flusher.component Callback) link.connection.flusher (stack.filterMap flusherFrame?)
      (flusherMoves move) next.connection.flusher (nextStack.filterMap flusherFrame?) := by
  obtain ⟨taken, put, rest, rfl, rfl, exchange, below⟩ :=
    step.exchange_of_tail lies_of_isInside stacked
  rw [List.filterMap_append, List.filterMap_append]
  exact exchange_flusher (enterable_filterMap below) exchange

theorem stacked_nil : Stacked ([] : List (LinkFrame Callback Session)) :=
  fun _ member => nomatch member

/-- What one thread does with a connection on an endpoint is a run of its flusher on one stack. -/
theorem flusher_run {config : Config} {first last : Link Callback Session}
    {moves : List (LinkMove Callback Session)} {stack : List (LinkFrame Callback Session)}
    (opened : Connection.new config = .ok first.connection)
    (run : Run (component Callback Session) first [] moves last stack) :
    Run (Flusher.component Callback) Flusher.new [] (moves.flatMap flusherMoves)
      last.connection.flusher (stack.filterMap flusherFrame?) := by
  have projected := run.project (fun link => link.connection.flusher) flusherFrame? flusherMoves
    Stacked.step (fun step stacked => Stacked.flusher step stacked) stacked_nil
  rw [Connection.new_eq opened] at projected
  exact projected

/-! ## The output of the endpoint -/

/-- The frame of the endpoint's output that a frame of the whole is. -/
def udpFrame? : LinkFrame Callback Session → Option (Udp.UdpFrame Nat)
  | .task (.udp task) => some (.task task)
  | _ => none

/-- The moves of the endpoint's output that a move of the whole is. -/
def udpMoves : LinkMove Callback Session → List (Udp.UdpMove Nat)
  | .work (.udp (.unlock (some (ticket, completion)))) =>
      [.work (.unlock (some (ticket, completion))), .begin (.complete ticket completion),
        .finish (.complete ticket completion) ()]
  | .work (.udp task) => [.work task]
  | .work (.endpoint (.write ticket entry)) =>
      [.enter (.write entry.address entry.buffers ticket)]
  | .work (.endpoint .shutdownOutput) | .enter .shutdownOutput => [.enter .shutdownOutput]
  | .work (.endpoint .close) | .enter .closeEndpoint => [.enter .close]
  | .enter .writable => [.enter .writable]
  | _ => []

theorem udpFrame?_liftConnection (frames : List (Connection.ConnectionFrame Callback Session)) :
    (frames.map liftConnection).filterMap udpFrame? = [] := by
  rw [List.filterMap_map, List.filterMap_eq_nil_iff]
  intro frame _
  cases frame with
  | task task => rfl
  | call request =>
      cases request with
      | flusher request => cases request <;> rfl
      | _ => rfl
  | inside request => rfl

theorem udpFrame?_told (request : Connection.Request Callback Session)
    (reply : Connection.Reply request) : (told request reply).filterMap udpFrame? = [] :=
  udpFrame?_liftConnection (Connection.resumed request reply)

theorem udpFrame?_below {rest : List (LinkFrame Callback Session)}
    (below : ∀ frame ∈ rest, lies frame = true) : rest.filterMap udpFrame? = [] := by
  rw [List.filterMap_eq_nil_iff]
  intro frame member
  have lying := below frame member
  unfold lies at lying
  split at lying <;> first | rfl | cases lying

theorem udpFrame?_endpointStep (udp : Udp Nat) (task : EndpointTask Callback) :
    (endpointStep udp task : Udp Nat × List (LinkFrame Callback Session)).2.filterMap udpFrame? =
      match task with
      | .write ticket entry => [.task (Udp.begun (.write entry.address entry.buffers ticket))]
      | .shutdownOutput => [.task (Udp.begun .shutdownOutput)]
      | .close => [.task (Udp.begun .close)]
      | _ => [] := by
  cases task with
  | fill buffer =>
      simp only [endpointStep]
      split
      · rfl
      · exact udpFrame?_told _ _
  | isOpen =>
      simp only [endpointStep]
      split
      · exact udpFrame?_told _ _
      · rfl
  | receive | interest | isOutputOpen => exact udpFrame?_told _ _
  | write | shutdownOutput | close => rfl

theorem receive_output (udp : Udp Nat) (buffer : Buffer) :
    udp.SameOutput (udp.receive buffer).1 := by
  have same : udp.socket.receive.1.sent = udp.socket.sent := by
    simp only [Socket.receive]
    split <;> rfl
  generalize answer : udp.socket.receive = received at same
  obtain ⟨socket, kind | ⟨sender, datagram⟩⟩ := received
  · simp only [Udp.receive, answer]
    split
    · simp_all
    · rename_i blocked
      cases blocked
      exact ⟨rfl, rfl, same⟩
    · rename_i failed
      cases failed
      exact ⟨rfl, rfl, same⟩
  · simp only [Udp.receive, answer]
    exact ⟨rfl, rfl, same⟩

theorem endpointStep_output (udp : Udp Nat) (task : EndpointTask Callback) :
    udp.SameOutput (endpointStep udp task : Udp Nat × List (LinkFrame Callback Session)).1 := by
  cases task with
  | receive buffer => exact receive_output udp buffer
  | fill | isOpen =>
      simp only [endpointStep]
      split <;> exact .refl udp
  | write | interest | shutdownOutput | isOutputOpen | close => exact ⟨rfl, rfl, rfl⟩

section Exchange

variable {link next : Link Callback Session} {move : LinkMove Callback Session}
variable {taken put : List (LinkFrame Callback Session)}

/-- Every move of the whole is some moves of the endpoint's output, or concerns its input only. -/
theorem exchange_udp
    (exchange : Exchange (component Callback Session) link move taken next put) :
    ∃ udp : Udp Nat, link.udp.SameOutput udp ∧
      Run (Udp.component Nat) udp (taken.filterMap udpFrame?) (udpMoves move) next.udp
        (put.filterMap udpFrame?) := by
  cases exchange with
  | work task free =>
      cases task with
      | connection task =>
          refine ⟨link.udp, .refl link.udp, ?_⟩
          rw [step_connection, udpFrame?_liftConnection]
          exact .refl _ _
      | udp task =>
          refine ⟨link.udp, .refl link.udp, ?_⟩
          rw [step_udp]
          rcases put_of_udpStep link.udp task with ⟨⟨ticket, completion⟩, rfl⟩ | ⟨other, further, put⟩
          · have reporting : ((Udp.step link.udp (.unlock (some (ticket, completion)))).2.flatMap
                liftUdp : List (LinkFrame Callback Session)).filterMap udpFrame? = [] := rfl
            rw [reporting]
            exact (run_work (Udp.component Nat) link.udp (.unlock (some (ticket, completion)))
              free).append ((run_begin (Udp.component Nat) _ (.complete ticket completion)).append
                (run_finish (Udp.component Nat) _ (.complete ticket completion) ()))
          · have shown : ((Udp.step link.udp task).2.flatMap liftUdp :
                List (LinkFrame Callback Session)).filterMap udpFrame? =
                  (Udp.step link.udp task).2 ++ [] := by
              rw [put, flatMap_liftUdp, List.filterMap_map, List.append_nil]
              exact congrFun List.filterMap_eq_map further
            have single : udpMoves (.work (.udp task) : LinkMove Callback Session) =
                [.work task] := by
              cases task with
              | unlock report? => cases report? <;> first | rfl | exact absurd rfl (other _)
              | _ => rfl
            rw [shown, single]
            exact run_work (Udp.component Nat) link.udp task free
      | endpoint task =>
          rw [step_endpoint, udpFrame?_endpointStep]
          have same := @endpointStep_output Callback Session link.udp task
          cases task with
          | write | shutdownOutput | close =>
              refine ⟨link.udp, .refl link.udp, ?_⟩
              exact run_enter (Udp.component Nat) link.udp _ enterable_nil
          | _ => exact ⟨_, same, .refl _ _⟩
      | answer request reply =>
          refine ⟨link.udp, .refl link.udp, ?_⟩
          change Run _ _ _ _ _ ((told request reply).filterMap udpFrame?)
          rw [udpFrame?_told]
          exact .refl _ _
  | «begin» request => exact ⟨link.udp, .refl link.udp, .refl _ _⟩
  | finish request reply =>
      refine ⟨link.udp, .refl link.udp, ?_⟩
      change Run _ _ _ _ _ ((told request reply).filterMap udpFrame?)
      rw [udpFrame?_told]
      exact .refl _ _
  | enter method =>
      refine ⟨link.udp, .refl link.udp, ?_⟩
      cases method with
      | connection method =>
          have shown : (begun (.connection method) :
              List (LinkFrame Callback Session)).filterMap udpFrame? = [] :=
            udpFrame?_liftConnection _
          change Run _ _ _ _ _ ((begun (.connection method)).filterMap udpFrame?)
          rw [shown]
          exact .refl _ _
      | writable | shutdownOutput | closeEndpoint =>
          exact run_enter (Udp.component Nat) link.udp _ enterable_nil

end Exchange

end DatagramMux.Link
