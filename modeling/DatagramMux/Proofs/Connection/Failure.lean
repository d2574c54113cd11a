import DatagramMux.Proofs.Connection.Teardown
import DatagramMux.Proofs.Flusher.Failure

/-!
# What a failed write does to a connection

Closing a connection terminates its flusher, and a failed write, which terminates the flusher, closes
the connection. Each of the two brings the other about, with calls to the surroundings in between.
They agree whenever nobody is in the middle of anything, as long as the owner keeps the connection
alive; after that a failed write finds nobody who could close it.
-/

namespace DatagramMux.Connection

open Component

variable {Callback Session : Type}

/-! ## The connection is kept alive -/

/-- Whether the owner keeps the connection alive no longer. -/
def abandons : ConnectionMove Callback Session → Bool
  | .enter .abandon => true
  | _ => false

/-- Whether a frame will give up what keeps the connection alive. -/
def keeps : ConnectionFrame Callback Session → Bool
  | .task .letGo | .task (.hold .abandon) => true
  | _ => false

theorem countP_keeps_liftFlusher (frames : List (Flusher.FlusherFrame Callback)) :
    (frames.map liftFlusher : List (ConnectionFrame Callback Session)).countP keeps = 0 := by
  simp only [List.countP_eq_zero, Bool.not_eq_true]
  exact forall_mem_liftFlusher (fun frame => keeps frame = false) (fun _ => rfl) rfl (fun _ => rfl)
    (fun _ => rfl) frames

theorem countP_keeps_liftSweep (frames : List (Registry.SweepFrame Session Purpose)) :
    (frames.map liftSweep : List (ConnectionFrame Callback Session)).countP keeps = 0 := by
  simp only [List.countP_eq_zero, Bool.not_eq_true]
  exact forall_mem_liftSweep (fun frame => keeps frame = false) (fun _ => rfl) (fun _ => rfl)
    (fun _ => rfl) (fun _ => rfl) frames

section Exchange

variable {connection next : Connection Callback Session} {move : ConnectionMove Callback Session}
variable {taken put : List (ConnectionFrame Callback Session)}

/-- Whoever begins to keep the connection alive leaves a frame that will give it up. -/
theorem holders_of_exchange
    (exchange : Exchange (component Callback Session) connection move taken next put)
    (owned : abandons move = false) (alive : 0 < connection.holders) :
    next.holders + taken.countP keeps = connection.holders + put.countP keeps := by
  cases exchange with
  | work task =>
      cases task with
      | flusher task => exact congrArg _ (countP_keeps_liftFlusher _).symm
      | sweep task => exact congrArg _ (countP_keeps_liftSweep _).symm
      | hold method =>
          cases method <;> simp [component, step, begun, keeps, List.countP_cons, Nat.add_assoc]
      | letGo =>
          simp [component, step, keeps]
          omega
      | react =>
          have some : connection.holders ≠ 0 := by omega
          simp [component, step, keeps, some]
      | shut | unregister | identify | route | vet | register | confirm | withdraw =>
          simp only [component, step]
          split <;> rfl
      | _ => rfl
  | «begin» request => rfl
  | finish request reply =>
      cases request with
      | flusher request => exact congrArg _ (countP_keeps_liftFlusher _).symm
      | sweep request => exact congrArg _ (countP_keeps_liftSweep _).symm
      | release buffer ending => cases ending <;> rfl
      | fill buffer => obtain ⟨buffer, cause | ⟨- | - | -⟩⟩ := reply <;> rfl
      | isOpen => obtain - | - := reply <;> rfl
      | create arrival identifier => obtain error | - | session := reply <;> rfl
      | process session arrival identifier => obtain error | consumed := reply <;> rfl
      | _ => rfl
  | enter method => cases method <;> first | rfl | cases owned

end Exchange

section Run

variable {config : Config} {first last : Connection Callback Session}
variable {moves : List (ConnectionMove Callback Session)}
variable {stack : List (ConnectionFrame Callback Session)}

/-- The owner keeps the connection alive, and so does everyone who will give it up. -/
theorem holders_of_run (opened : Connection.new config = .ok first)
    (run : Run (component Callback Session) first [] moves last stack)
    (owned : moves.any abandons = false) : last.holders = 1 + stack.countP keeps := by
  refine run.invariant_of_step (fun moves connection stack =>
    moves.any abandons = false → connection.holders = 1 + stack.countP keeps) ?_ ?_ owned
  · intro moves connection stack move next nextStack step before owned
    rw [List.any_append, Bool.or_eq_false_iff] at owned
    have earlier := before owned.1
    obtain ⟨taken, put, rest, rfl, rfl, exchange⟩ := step.exchange
    have balance := holders_of_exchange exchange (by simpa using owned.2) (by omega)
    rw [List.countP_append] at earlier ⊢
    omega
  · intro _
    rw [new_eq opened]
    rfl

/-- Whether somebody reacts to a failed write. -/
def reacts : ConnectionMove Callback Session → Bool
  | .work .react => true
  | _ => false

theorem closed_of_reacts (opened : Connection.new config = .ok first)
    (run : Run (component Callback Session) first [] moves last stack)
    (owned : moves.any abandons = false) (reaction : moves.any reacts = true) :
    last.closed = true ∨ .task .shut ∈ stack := by
  refine run.invariant_of_reached (fun moves connection stack =>
    moves.any abandons = false → moves.any reacts = true →
      connection.closed = true ∨ .task .shut ∈ stack) ?_ nofun owned reaction
  intro moves connection stack move next nextStack run step before owned reaction
  rw [List.any_append, Bool.or_eq_false_iff] at owned
  rw [List.any_append, Bool.or_eq_true] at reaction
  have holders := holders_of_run opened run owned.1
  obtain ⟨taken, put, rest, rfl, rfl, exchange⟩ := step.exchange
  obtain rfl := moved_of_exchange exchange
  rcases reaction with earlier | now
  · rcases before owned.1 earlier with closed | waiting
    · exact .inl (closed_moved closed move)
    · rcases List.mem_append.1 waiting with top | below
      · left
        cases exchange with
        | work task =>
            obtain rfl := Frame.task.inj (List.mem_singleton.1 top)
            exact closed_moved_shut connection
        | «begin» request => cases List.mem_singleton.1 top
        | finish request reply => cases List.mem_singleton.1 top
        | enter method => cases top
      · exact .inr (List.mem_append_right _ below)
  · right
    rw [List.any_cons, List.any_nil, Bool.or_false] at now
    unfold reacts at now
    split at now
    · cases exchange
      -- The owner is a holder, so the reaction finds the connection alive and closes it.
      have some : connection.holders ≠ 0 := by omega
      simp [component, Connection.step, some]
    · cases now

theorem exists_first_call (run : Run (component Callback Session) first [] moves last stack)
    (alive : first.closed = false) (closed : last.closed = true) :
    ∃ before middle rest during, moves = before ++ during ∧ during ≠ [] ∧ middle.closed = false ∧
      Run (component Callback Session) first [] before middle (.task .shut :: rest) ∧
        Run (component Callback Session) middle (.task .shut :: rest) during last stack := by
  refine run.invariant_of_reached (fun moves connection stack => connection.closed = true →
    ∃ before middle rest during, moves = before ++ during ∧ during ≠ [] ∧ middle.closed = false ∧
      Run (component Callback Session) first [] before middle (.task .shut :: rest) ∧
        Run (component Callback Session) middle (.task .shut :: rest) during connection stack)
    ?_ ?_ closed
  · intro moves connection stack move next nextStack run step earlier closed
    cases already : connection.closed with
    | true =>
        obtain ⟨before, middle, rest, during, rfl, some, alive, reached, onward⟩ := earlier already
        exact ⟨before, middle, rest, during ++ [move], List.append_assoc _ _ _, by simp, alive,
          reached, .tail onward step⟩
    | false =>
        have moved : moved connection move = next := by
          obtain ⟨taken, put, rest, -, -, exchange⟩ := step.exchange
          exact moved_of_exchange exchange
        obtain rfl := eq_shut_of_moved already (moved ▸ closed)
        cases step with
        | work task rest free =>
            exact ⟨moves, connection, rest, [.work .shut], rfl, by simp, already, run,
              (Step.work connection .shut rest free).run⟩
  · intro closed
    rw [alive] at closed
    cases closed

/-- Whoever has left a closed connection has left it with closing being over. -/
theorem exists_course_over (opened : Connection.new config = .ok first)
    (run : Run (component Callback Session) first [] moves last []) (closed : last.closed = true) :
    ∃ before middle rest during, moves = before ++ during ∧
      Run (component Callback Session) first [] before middle (.task .shut :: rest) ∧
        middle.closed = false ∧ Course middle during last .over := by
  have fresh : first.closed = false := by rw [new_eq opened]
  obtain ⟨before, middle, rest, during, rfl, -, alive, reached, onward⟩ :=
    exists_first_call run fresh closed
  exact ⟨before, middle, rest, during, rfl, reached, alive,
    course_over opened reached onward alive rfl nofun⟩

theorem ended_of_closed (opened : Connection.new config = .ok first)
    (run : Run (component Callback Session) first [] moves last []) (closed : last.closed = true) :
    last.flusher.phase = .terminated ∧ last.flusher.queue = [] ∧
      moves.countP closesEndpoint = 1 := by
  obtain ⟨before, middle, rest, during, rfl, reached, alive, course⟩ :=
    exists_course_over opened run closed
  have terminated := course.terminated rfl
  refine ⟨terminated, queue_eq_nil opened run terminated, ?_⟩
  rw [List.countP_append, course.countP_closesEndpoint,
    (untouched_of_run opened reached alive).countP_closesEndpoint]
  rfl

theorem closed_completely (opened : Connection.new config = .ok first)
    (run : Run (component Callback Session) first [] moves last [])
    (own : moves.any demands = false) (closed : last.closed = true) :
    last.flusher.phase = .terminated ∧ last.registry.entries = [] ∧ last.flusher.queue = [] ∧
      moves.countP closesEndpoint = 1 := by
  obtain ⟨terminated, empty, once⟩ := ended_of_closed opened run closed
  obtain ⟨before, middle, rest, during, rfl, reached, alive, course⟩ :=
    exists_course_over opened run closed
  obtain ⟨turned, waiting, account⟩ := course.exists_account fun move member =>
    own_of_run run own move (List.mem_append_right _ member)
  exact ⟨terminated, (eq_due_of_account account rfl rfl).2, empty, once⟩

/-- As long as the owner keeps the connection alive, whoever terminates the flusher closes it. -/
theorem closed_of_terminated (opened : Connection.new config = .ok first)
    (run : Run (component Callback Session) first [] moves last [])
    (owned : moves.any abandons = false) (terminated : last.flusher.phase = .terminated) :
    last.closed = true := by
  rcases Flusher.announced_of_run (flusher_run opened run) terminated with
    closed | failed | ⟨frame, member, -⟩
  -- The flusher is closed by closing the connection only.
  · obtain ⟨move, member, seen⟩ := List.mem_flatMap.1 closed
    by_contra alive
    have calm := (untouched_of_run opened run (by simpa using alive)).calm move member
    unfold flusherMoves at seen
    split at seen <;> simp at seen
    subst seen
    cases calm
  · obtain ⟨move, member, seen⟩ := List.mem_flatMap.1 failed
    have reaction : moves.any reacts = true := by
      refine List.any_eq_true.2 ⟨move, member, ?_⟩
      unfold flusherMoves at seen
      split at seen <;> simp_all [reacts]
    rcases closed_of_reacts opened run owned reaction with closed | waiting
    · exact closed
    · cases waiting
  · cases member

/--
As long as the owner keeps the connection alive, it is closed just when its flusher is terminating,
whenever nobody is in the middle of anything. A write that has failed, at whatever time, has closed
it: no session is registered, nothing waits to be written, and the endpoint was closed once.
-/
theorem closed_iff_terminating_and_failure_closes (opened : Connection.new config = .ok first)
    (run : Run (component Callback Session) first [] moves last [])
    (owned : moves.any abandons = false) (own : moves.any demands = false) :
    (last.closed = true ↔ last.flusher.condition = .terminating) ∧
      ∀ ticket cause, (ticket, .error cause) ∈ (journal moves).completed →
        last.closed = true ∧ last.registry.entries = [] ∧ last.flusher.queue = [] ∧
          moves.countP closesEndpoint = 1 := by
  rw [Flusher.condition_eq_terminating_iff]
  have closes := closed_of_terminated opened run owned
  refine ⟨⟨fun closed => (closed_completely opened run own closed).1, closes⟩, ?_⟩
  intro ticket cause failed
  have terminated := (Flusher.Final.of_run (flusher_run opened run)).terminated failed
  exact ⟨closes terminated, (closed_completely opened run own (closes terminated)).2⟩

end Run

/-- A write fails while the endpoint is still in it. -/
def failedWrite : List (Choice (Request Nat Nat) (Method Nat) Reply) :=
  List.flatten
    [[.enter (.write ⟨1, default, []⟩)], List.replicate 8 .proceed,
      [.enter (.complete 0 (.error (.system .connectionRefused)))], List.replicate 4 .proceed,
      [.finish (answers .empty)], List.replicate 12 .proceed, [.finish (answers .empty), .proceed],
      [.finish (answers .empty)], List.replicate 4 .proceed]

theorem closed_after_failedWrite :
    let trace := Trace.follow (component Nat Nat) {} failedWrite
    trace.stack = [] ∧ trace.state.closed = true ∧
      trace.state.flusher.condition = .terminating ∧ trace.moves.countP closesEndpoint = 1 := by
  intro trace
  have opened : Connection.new {} = .ok ({} : Connection Nat Nat) := rfl
  have run : Run (component Nat Nat) {} [] trace.moves trace.state [] :=
    Trace.run_follow (component Nat Nat) {} failedWrite
  have completed : (journal trace.moves).completed = [(0, .error (.system .connectionRefused))] := rfl
  obtain ⟨agree, failure⟩ :=
    closed_iff_terminating_and_failure_closes opened run (by decide) (by decide)
  obtain ⟨closed, -, -, once⟩ := failure 0 (.system .connectionRefused)
    (completed ▸ List.mem_singleton_self _)
  exact ⟨rfl, closed, agree.1 closed, once⟩

end DatagramMux.Connection
