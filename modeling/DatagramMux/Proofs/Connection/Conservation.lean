import DatagramMux.Proofs.Connection.Headcount

/-!
# The sessions of one thread

If only one thread uses a connection, nobody comes between registering a session and seeing that the
connection is still open, so no session is counted only once. Whenever the thread has returned, the
created sessions are those that were closed and those that are registered. Once closing has counted the
sessions that it has taken out, nothing is registered any more and nothing is left to be counted, and
both counters have reached their final value.
-/

namespace DatagramMux.Connection

open Component

variable {Callback Session : Type}
variable {connection next : Connection Callback Session} {move : ConnectionMove Callback Session}
variable {taken put : List (ConnectionFrame Callback Session)}

/-! ## What is still to be counted -/

/-- Whether a frame takes out, or counts, the sessions of a connection that is being closed. -/
def windsUp : ConnectionFrame Callback Session → Bool
  | .task (.sweep (.list .shutdown)) | .task (.sweep (.next _ _ .shutdown))
  | .call (.sweep (.close _ _ _ .shutdown)) | .inside (.sweep (.close _ _ _ .shutdown))
  | .task (.countClosed _) => true
  | _ => false

/-- Whether a frame is going to count a session as created or as closed, one by itself. -/
@[simp]
def counts : ConnectionFrame Callback Session → Bool
  | .task (.confirm _ _) | .task (.withdraw _ _) | .task (.countCreated _)
  | .task .countUnregistered => true
  | _ => false

/-- A frame that neither counts a session nor has to do with those of a closed connection. -/
theorem nothing_to_count {frame : ConnectionFrame Callback Session} (aside : counts frame = false)
    (wound : windsUp frame = false) : unconfirmed frame = 0 ∧ uncounted frame = 0 := by
  constructor
  · unfold unconfirmed
    split <;> simp_all
  · unfold uncounted
    split <;> simp_all [windsUp]

theorem counts_of_lies {frame : ConnectionFrame Callback Session} (below : lies frame = true) :
    counts frame = false := by
  unfold counts
  split <;> first | rfl | cases below

theorem not_counts_of_mem_flusher {frames : List (Flusher.FlusherFrame Callback)} :
    ∀ frame ∈ (frames.map liftFlusher : List (ConnectionFrame Callback Session)),
      counts frame = false :=
  forall_mem_liftFlusher (fun frame => counts frame = false) (fun _ => rfl) rfl (fun _ => rfl)
    (fun _ => rfl) frames

theorem not_counts_of_mem_sweep {frames : List (Registry.SweepFrame Session Purpose)} :
    ∀ frame ∈ (frames.map liftSweep : List (ConnectionFrame Callback Session)),
      counts frame = false :=
  forall_mem_liftSweep (fun frame => counts frame = false) (fun _ => rfl) (fun _ => rfl)
    (fun _ => rfl) (fun _ => rfl) frames

/-- In a closed connection one comes to count a session only by taking it out of the registry. -/
theorem not_counts_of_exchange
    (exchange : Exchange (component Callback Session) connection move taken next put)
    (fit : ∀ frame ∈ taken, Fit connection frame) (closed : next.closed = true)
    (vacant : ∀ identifier, taken = [.task (.unregister identifier)] →
      connection.registry.entries = []) : ∀ frame ∈ put, counts frame = false := by
  cases exchange with
  | work task =>
      have fit := fit _ (List.mem_singleton_self _)
      change (step connection task).1.closed = true at closed
      change ∀ frame ∈ (step connection task).2, counts frame = false
      cases task with
      | unregister identifier =>
          have absent : connection.registry.lookup? identifier = none := by
            rw [Registry.lookup?, vacant identifier rfl]
            rfl
          simp [step, Registry.remove, absent]
      | register session identifier buffer =>
          have alive : connection.closed = false := fit
          simp only [step] at closed
          split at closed <;> cases alive.symm.trans closed
      | confirm identifier buffer =>
          have alive : connection.closed = false := fit
          simp [step, alive] at closed
      | withdraw => cases fit
      | hold method => cases method <;> simp [step, begun]
      | flusher task => exact not_counts_of_mem_flusher
      | sweep task => exact not_counts_of_mem_sweep
      | react | shut | identify | route | vet =>
          simp only [step]
          split <;> simp
      | _ => simp [step, refill]
  | «begin» request => simp
  | finish request reply =>
      change ∀ frame ∈ resumed request reply, counts frame = false
      fun_cases resumed request reply
      all_goals first
        | exact not_counts_of_mem_flusher
        | exact not_counts_of_mem_sweep
        | simp [refill]
  | enter method =>
      cases method
      all_goals simp [component, begun, Method.holds]

/-- As long as nobody counts sessions, the counters stay as they are. -/
theorem counters_of_exchange
    (exchange : Exchange (component Callback Session) connection move taken next put)
    (aside : ∀ frame ∈ taken, counts frame = false) (wound : ∀ frame ∈ taken, windsUp frame = false) :
    next.created = connection.created ∧ next.sessionsClosed = connection.sessionsClosed := by
  cases exchange with
  | work task =>
      have aside := aside _ (List.mem_singleton_self _)
      have wound := wound _ (List.mem_singleton_self _)
      change (step connection task).1.created = _ ∧ (step connection task).1.sessionsClosed = _
      fun_cases step connection task
      all_goals first | exact ⟨rfl, rfl⟩ | simp [windsUp] at aside wound
  | _ => exact ⟨rfl, rfl⟩

/-! ## How closing ends -/

/-- Whether the sessions that closing takes out have been counted. -/
def Closing.counted : Closing Session → Bool
  | .listing | .sweeping _ | .removing _ _ | .counting => false
  | .halting | .parting | .leaving | .over => true

theorem Closing.left_of_counted {stage : Closing Session} (counted : stage.counted = true) :
    stage.left? = some [] ∧ stage.removed? = none := by
  cases stage <;> first | exact ⟨rfl, rfl⟩ | cases counted

theorem Advance.counted {stage later : Closing Session} (advance : Advance connection move stage later)
    (counted : stage.counted = true) : later.counted = true := by
  cases advance <;> first | rfl | exact counted

theorem windsUp_eq_false_iff {frame : ConnectionFrame Callback Session} :
    windsUp frame = false ↔ ∀ stage ∈ mark frame, stage.counted = true := by
  fun_cases windsUp frame
  case case6 =>
    fun_cases mark frame
    all_goals simp_all [Closing.counted]
  all_goals simp [mark, Closing.counted]

/-- Whether the sessions have been counted is seen from the stack. -/
theorem wound_iff {stack : List (ConnectionFrame Callback Session)} {stage : Closing Session}
    (shown : stack.filterMap mark = stage.shown) :
    (∀ frame ∈ stack, windsUp frame = false) ↔ stage.counted = true := by
  have marks : (∀ frame ∈ stack, windsUp frame = false) ↔
      ∀ other ∈ stage.shown, other.counted = true := by
    simp only [← shown, List.mem_filterMap, windsUp_eq_false_iff]
    constructor
    · rintro all other ⟨frame, member, marked⟩
      exact all frame member other marked
    · exact fun all frame member other marked => all other ⟨frame, member, marked⟩
  rw [marks]
  cases stage <;> simp [Closing.shown, Closing.counted]

section Run

variable {config : Config} {first last : Connection Callback Session}
variable {moves further : List (ConnectionMove Callback Session)}
variable {stack : List (ConnectionFrame Callback Session)}

/-- When closing has counted the sessions, none is registered any more. -/
theorem exists_stage (opened : Connection.new config = .ok first)
    (run : Run (component Callback Session) first [] moves last stack)
    (own : moves.any demands = false) (closed : last.closed = true) :
    ∃ stage : Closing Session, stack.filterMap mark = stage.shown ∧
      (stage.counted = true → last.registry.entries = []) := by
  have fresh : first.closed = false := by rw [new_eq opened]
  obtain ⟨before, middle, rest, during, rfl, some, alive, reached, onward⟩ :=
    exists_first_call run fresh closed
  rcases exists_course opened reached onward alive with ⟨none, -, -⟩ | ⟨stage, course, shown⟩
  · exact absurd none some
  · refine ⟨stage, shown, fun counted => ?_⟩
    obtain ⟨turned, waiting, account⟩ := course.exists_account fun move member =>
      own_of_run run own move (List.mem_append_right _ member)
    obtain ⟨left, removed⟩ := Closing.left_of_counted counted
    exact (eq_due_of_account account left removed).2

/-- The connection is closed, and nothing is left to be counted. -/
structure Final (connection : Connection Callback Session)
    (stack : List (ConnectionFrame Callback Session)) : Prop where
  closed : connection.closed = true
  vacant : connection.registry.entries = []
  wound : ∀ frame ∈ stack, windsUp frame = false
  aside : ∀ frame ∈ stack, counts frame = false

theorem final_of_run (opened : Connection.new config = .ok first)
    (run : Run (component Callback Session) first [] moves last stack)
    (own : moves.any demands = false) (closed : last.closed = true)
    (wound : ∀ frame ∈ stack, windsUp frame = false) : Final last stack := by
  obtain ⟨stage, shown, vacant⟩ := exists_stage opened run own closed
  refine ⟨closed, vacant ((wound_iff shown).1 wound), wound, ?_⟩
  cases run with
  | refl => exact fun _ member => nomatch member
  | @tail middle _ _ _ _ _ _ before step =>
      rw [List.any_append, Bool.or_eq_false_iff] at own
      obtain ⟨taken, put, rest, rfl, rfl, exchange, fit, below⟩ := (Nested.of_run before).exchange step
      have new := not_counts_of_exchange exchange fit closed ?_
      · intro frame member
        rcases List.mem_append.1 member with top | under
        · exact new frame top
        · exact counts_of_lies (below frame under).1
      · rintro identifier rfl
        -- The flag is not raised by looking for a session, so the sessions were counted before.
        have already : middle.closed = true := by
          by_contra alive
          obtain rfl := moved_of_exchange exchange
          obtain rfl := eq_shut_of_moved (by simpa using alive) closed
          cases exchange
        obtain ⟨stage, shown, vacant⟩ := exists_stage opened before own.1 already
        refine vacant ((wound_iff shown).1 fun frame member => ?_)
        rcases List.mem_append.1 member with top | under
        · rw [List.mem_singleton.1 top]
          rfl
        · exact wound frame (List.mem_append_right _ under)

/-- Once nothing is left to be counted, that remains so, and the counters stay as they are. -/
theorem Final.step {next : Connection Callback Session} {move : ConnectionMove Callback Session}
    {nextStack : List (ConnectionFrame Callback Session)} (final : Final last stack)
    (opened : Connection.new config = .ok first)
    (run : Run (component Callback Session) first [] moves last stack)
    (own : (moves ++ [move]).any demands = false)
    (step : Step (component Callback Session) last stack move next nextStack) :
    Final next nextStack ∧ next.created = last.created ∧ next.sessionsClosed = last.sessionsClosed := by
  have earlier := own
  rw [List.any_append, Bool.or_eq_false_iff] at earlier
  obtain ⟨stage, shown, -⟩ := exists_stage opened run earlier.1 final.closed
  obtain ⟨later, advance, laterShown⟩ := advance_of_step opened run step final.closed shown
  have wound := (wound_iff laterShown).2 (advance.counted ((wound_iff shown).1 final.wound))
  obtain ⟨taken, put, rest, rfl, rfl, exchange⟩ := step.exchange
  constructor
  · refine final_of_run opened (.tail run step) own ?_ wound
    exact moved_of_exchange exchange ▸ closed_moved final.closed move
  · exact counters_of_exchange exchange
      (fun frame member => final.aside frame (List.mem_append_left _ member))
      fun frame member => final.wound frame (List.mem_append_left _ member)

/-! ## The balance -/

/-- Nobody else takes a session out before its thread has seen that the connection is open. -/
theorem not_withdraws_of_run (run : Run (component Callback Session) first [] moves last stack) :
    ∀ move ∈ moves, ∀ identifier buffer, move ≠ .work (.withdraw identifier buffer) := by
  refine run.invariant_of_reached (fun moves _ _ =>
    ∀ move ∈ moves, ∀ identifier buffer, move ≠ .work (.withdraw identifier buffer)) ?_
    fun _ member => nomatch member
  rintro moves connection stack move next nextStack run step before other member identifier buffer rfl
  rcases List.mem_append.1 member with old | new
  · exact before _ old identifier buffer rfl
  · obtain rfl := List.mem_singleton.1 new
    obtain ⟨taken, put, rest, rfl, rfl, exchange, fit, -⟩ := (Nested.of_run run).exchange step
    cases exchange
    cases fit _ (List.mem_singleton_self _)

theorem balanced_of_run (opened : Connection.new config = .ok first)
    (run : Run (component Callback Session) first [] moves last stack) :
    Balanced first moves last ↑stack := by
  refine run.invariant_of_exchange (Balanced first) ?_ (balanced_new opened)
  intro moves connection move taken next put rest exchange before
  have watched : WatchedExchange (component Callback Session) (listing Callback Session) connection
      (fun _ => False) move taken next put := .plain exchange
  exact before.exchange watched

/-- If no frame is behind with counting, the created sessions are closed or registered. -/
theorem balance_of_run (opened : Connection.new config = .ok first)
    (run : Run (component Callback Session) first [] moves last stack)
    (own : moves.any demands = false)
    (none : ∀ frame ∈ stack, unconfirmed frame = 0 ∧ uncounted frame = 0) :
    last.created = last.sessionsClosed + .ofNat last.registry.size := by
  obtain ⟨-, even⟩ := balanced_of_run opened run
  have overtaken : (scenes first moves).countP overtakes = 0 := by
    rw [List.countP_eq_zero]
    intro scene member overtaking
    have other := not_withdraws_of_run run scene.2 (mem_of_mem_scenes member)
    unfold overtakes at overtaking
    split at overtaking
    · exact other _ _ rfl
    · cases overtaking
  have dispelled : (scenes first moves).countP dispels = 0 := by
    rw [List.countP_eq_zero]
    intro scene member dispelling
    have own := own_of_run run own scene.2 (mem_of_mem_scenes member)
    unfold dispels at dispelling
    split at dispelling
    · cases own
    · cases dispelling
  obtain ⟨arrivals, departures⟩ := total_of_forall none
  simpa [arrived, departed, overtaken, dispelled, arrivals, departures] using even

/-- Once nothing is left to be counted, the counters stay as they are in whatever follows. -/
theorem Final.onward {later : Connection Callback Session}
    {laterStack : List (ConnectionFrame Callback Session)} (final : Final last stack)
    (opened : Connection.new config = .ok first)
    (run : Run (component Callback Session) first [] moves last stack)
    (own : moves.any demands = false)
    (onward : Run (component Callback Session) last stack further later laterStack)
    (calm : further.any demands = false) :
    later.created = last.created ∧ later.sessionsClosed = last.sessionsClosed := by
  suffices kept : Final later laterStack ∧ later.created = last.created ∧
      later.sessionsClosed = last.sessionsClosed from kept.2
  refine onward.invariant_of_reached (fun further later laterStack =>
    further.any demands = false → Final later laterStack ∧ later.created = last.created ∧
      later.sessionsClosed = last.sessionsClosed) ?_ (fun _ => ⟨final, rfl, rfl⟩) calm
  intro further later laterStack move next nextStack onward step before calm
  have earlier := calm
  rw [List.any_append, Bool.or_eq_false_iff] at earlier
  obtain ⟨final, created, departed⟩ := before earlier.1
  have whole : ((moves ++ further) ++ [move]).any demands = false := by
    rw [List.append_assoc, List.any_append, own, calm, Bool.or_self]
  obtain ⟨nextFinal, same⟩ := final.step opened (run.append onward) whole step
  exact ⟨nextFinal, same.1.trans created, same.2.trans departed⟩

/--
Whenever a thread that uses a connection alone has returned, as many sessions were created as have been
closed or are registered. Once the connection is closed and the sessions have been counted, even if
calls around it are still under way, as many were closed as were created, and neither number will ever
change.
-/
theorem created_eq_closed_plus_registered (opened : Connection.new config = .ok first)
    (run : Run (component Callback Session) first [] moves last stack)
    (own : moves.any demands = false) :
    (stack = [] → last.created = last.sessionsClosed + .ofNat last.registry.size) ∧
      (last.closed = true → (∀ frame ∈ stack, windsUp frame = false) →
        last.created = last.sessionsClosed ∧
          ∀ further later laterStack,
            Run (component Callback Session) last stack further later laterStack →
              further.any demands = false →
                later.created = last.created ∧ later.sessionsClosed = last.sessionsClosed) := by
  constructor
  · rintro rfl
    exact balance_of_run opened run own fun _ member => nomatch member
  · intro closed wound
    have final := final_of_run opened run own closed wound
    constructor
    · have balance := balance_of_run opened run own fun frame member =>
        nothing_to_count (final.aside frame member) (wound frame member)
      simpa [Registry.size, final.vacant] using balance
    · intro further later laterStack onward calm
      exact final.onward opened run own onward calm

end Run

/-- A session is created, and while the next datagram is awaited the connection is closed. -/
def closingInside : List (Choice (Request Nat Nat) (Method Nat) Reply) :=
  List.flatten
    [admission (answers .empty), List.replicate 4 .proceed, [.enter .close],
      List.replicate 5 .proceed, [.enter (.closeSession ⟨List.replicate 16 7⟩)],
      List.replicate 3 .proceed, [.finish (answers .empty)], List.replicate 6 .proceed,
      [.finish (answers .empty), .proceed]]

/-- The read loop is told that there is nothing more. -/
def returning : List (Choice (Request Nat Nat) (Method Nat) Reply) :=
  [.finish (answers .closed), .proceed, .finish (answers .closed), .proceed,
    .finish (answers .closed), .proceed]

theorem balance_after_closingInside :
    let trace := Trace.follow (component Nat Nat) {} closingInside
    let onward := Trace.followFrom (component Nat Nat) trace.state trace.stack returning
    trace.stack.length = 2 ∧ trace.state.created = 1 ∧ trace.state.created = trace.state.sessionsClosed ∧
      onward.stack = [] ∧ onward.state.created = 1 ∧
        onward.state.created = onward.state.sessionsClosed + .ofNat onward.state.registry.size := by
  intro trace onward
  have opened : Connection.new {} = .ok ({} : Connection Nat Nat) := rfl
  have run : Run (component Nat Nat) {} [] trace.moves trace.state trace.stack :=
    Trace.run_follow (component Nat Nat) {} closingInside
  have rest : Run (component Nat Nat) trace.state trace.stack onward.moves onward.state onward.stack :=
    Trace.run_followFrom (component Nat Nat) trace.state trace.stack returning
  have length : trace.stack.length = 2 := by decide +kernel
  have created : trace.state.created = 1 := by decide +kernel
  have closed : trace.state.closed = true := by decide +kernel
  have wound : ∀ frame ∈ trace.stack, windsUp frame = false := by decide +kernel
  have own : trace.moves.any demands = false := by decide +kernel
  have calm : onward.moves.any demands = false := by decide +kernel
  have done : onward.stack = [] := List.isEmpty_iff.1 (by decide +kernel)
  clear_value trace onward
  obtain ⟨even, still⟩ := (created_eq_closed_plus_registered opened run own).2 closed wound
  have whole : (trace.moves ++ onward.moves).any demands = false := by
    rw [List.any_append, own, calm, Bool.or_self]
  have balance := (created_eq_closed_plus_registered opened (run.append rest) whole).1 done
  exact ⟨length, created, even, done, (still _ _ _ rest calm).1.trans created, balance⟩

end DatagramMux.Connection
