import DatagramMux.Proofs.Connection.Scenes

/-!
# Counting the sessions that come and go

A session is counted as created when it has been registered and the connection is still found open, and
as closed when it has been taken out of the registry. Both are counted a little later than they happen,
by the thread that has seen to it. There is one way for a session to be counted only once: a thread
registers it, another one closes the connection and takes it out, and the first one then finds the
connection closed and nothing to take out again. This module keeps the books on all frames of all
threads and shows that nothing else upsets the balance.
-/

namespace DatagramMux.Connection

open Component

variable {Callback Session : Type}
variable {connection next : Connection Callback Session} {move : ConnectionMove Callback Session}
variable {taken put : List (ConnectionFrame Callback Session)}

/-! ## What the frames have still to count -/

/-- One for a frame that has registered a session which is not counted as created yet. -/
@[simp]
def unconfirmed : ConnectionFrame Callback Session → Nat
  | .task (.confirm _ _) | .task (.withdraw _ _) | .task (.countCreated _) => 1
  | _ => 0

/-- How many sessions a frame has taken out, or seen taken out, that are not counted as closed yet. -/
@[simp]
def uncounted : ConnectionFrame Callback Session → Nat
  | .task .countUnregistered => 1
  | .task (.sweep (.next _ closed .shutdown)) | .task (.countClosed closed) => closed
  | .call (.sweep (.close _ _ closed .shutdown)) => closed + 1
  | .inside (.sweep (.close _ _ closed .shutdown)) => closed + 1
  | _ => 0

/-- The sessions that have come, by the counter and by the frames that are behind with it. -/
def arrived (connection : Connection Callback Session)
    (frames : Multiset (ConnectionFrame Callback Session)) : UInt64 :=
  connection.created + .ofNat (total unconfirmed frames)

/-- The sessions that have gone, by the counter and by the frames that are behind with it. -/
def departed (connection : Connection Callback Session)
    (frames : Multiset (ConnectionFrame Callback Session)) : UInt64 :=
  connection.sessionsClosed + .ofNat (total uncounted frames)

/-- Whether a thread wants to take its session out again and finds that somebody else has done so. -/
def overtakes : Scene Callback Session → Bool
  | (connection, .work (.withdraw identifier _)) =>
      (connection.registry.lookup? identifier).isNone
  | _ => false

/-- Whether a session is taken out since somebody wants all to be closed in an open connection. -/
def dispels : Scene Callback Session → Bool
  | (connection, .work (.sweep (.next (identifier :: _) _ .demand))) =>
      (connection.registry.lookup? identifier).isSome
  | _ => false

theorem size_of_insert? {registry extended : Registry Session} {identifier : ConnectionId}
    {session : Session} (inserted : registry.insert? identifier session = some extended) :
    extended.size = registry.size + 1 := by
  rw [Registry.size, Registry.entries_of_insert? inserted, List.length_append, List.length_singleton,
    Registry.size]

theorem size_of_lookup? {registry : Registry Session} {identifier : ConnectionId}
    {session : Session} (found : registry.lookup? identifier = some session) :
    registry.size = (registry.erase identifier).size + 1 := by
  have taken := (Registry.perm_erase (Registry.lookup?_eq_some_iff.1 found)).length_eq
  rwa [List.length_cons] at taken

theorem total_of_forall {frames : List (ConnectionFrame Callback Session)}
    (none : ∀ frame ∈ frames, unconfirmed frame = 0 ∧ uncounted frame = 0) :
    (frames.map unconfirmed).sum = 0 ∧ (frames.map uncounted).sum = 0 :=
  ⟨List.sum_eq_zero (List.forall_mem_map.2 fun frame member => (none frame member).1),
    List.sum_eq_zero (List.forall_mem_map.2 fun frame member => (none frame member).2)⟩

theorem total_liftFlusher (frames : List (Flusher.FlusherFrame Callback)) :
    ((frames.map liftFlusher : List (ConnectionFrame Callback Session)).map unconfirmed).sum = 0 ∧
      ((frames.map liftFlusher : List (ConnectionFrame Callback Session)).map uncounted).sum = 0 :=
  total_of_forall
    (forall_mem_liftFlusher (fun frame => unconfirmed frame = 0 ∧ uncounted frame = 0)
      (fun _ => ⟨rfl, rfl⟩) ⟨rfl, rfl⟩ (fun _ => ⟨rfl, rfl⟩) (fun _ => ⟨rfl, rfl⟩) frames)

theorem total_sweepResume (request : Registry.SweepRequest Session Purpose) :
    (((Registry.sweepResume request).map liftSweep :
        List (ConnectionFrame Callback Session)).map unconfirmed).sum = 0 ∧
      (((Registry.sweepResume request).map liftSweep :
        List (ConnectionFrame Callback Session)).map uncounted).sum =
          uncounted (.inside (.sweep request) : ConnectionFrame Callback Session) := by
  rcases request with ⟨session, left, closed, purpose⟩ | ⟨closed, purpose⟩
  all_goals cases purpose <;> exact ⟨rfl, rfl⟩

/-- What is to be counted when a request has been met was to be counted before. -/
theorem total_resumed (request : Request Callback Session) (reply : Reply request) :
    ((resumed request reply).map unconfirmed).sum = 0 ∧
      ((resumed request reply).map uncounted).sum =
        uncounted (.inside request : ConnectionFrame Callback Session) := by
  fun_cases resumed request reply
  case case21 => exact total_sweepResume _
  case case22 => exact total_liftFlusher _
  all_goals exact ⟨rfl, rfl⟩

/-- A move that keeps the books: who comes is registered, and who is no longer registered has gone. -/
def Kept (connection : Connection Callback Session) (move : ConnectionMove Callback Session)
    (taken : List (ConnectionFrame Callback Session)) (next : Connection Callback Session)
    (put : List (ConnectionFrame Callback Session)) : Prop :=
  arrived next ↑put + departed connection ↑taken +
      .ofNat (connection.registry.size + [(connection, move)].countP overtakes) =
    arrived connection ↑taken + departed next ↑put +
      .ofNat (next.registry.size + [(connection, move)].countP dispels)

theorem kept_work (connection : Connection Callback Session) (task : Task Callback Session) :
    Kept connection (.work task) [.task task] (step connection task).1 (step connection task).2 := by
  unfold Kept arrived departed
  cases task with
  | hold method => cases method <;> simp [step, begun, overtakes, dispels]
  | flusher task =>
      have none := @total_liftFlusher Callback Session (Flusher.step connection.flusher task).2
      simp [step, none, overtakes, dispels, -List.map_map]
  | sweep task =>
      rcases task with purpose | ⟨_ | ⟨identifier, left⟩, closed, purpose⟩
      · cases purpose <;> simp [step, Registry.sweepStep, liftSweep, overtakes, dispels]
      · cases purpose <;> simp [step, Registry.sweepStep, liftSweep, overtakes, dispels]
      · simp only [step, Registry.sweepStep_next]
        rcases found : connection.registry.lookup? identifier with - | session
        · rw [Registry.erase_of_not_mem (Registry.lookup?_eq_none_iff.1 found)]
          cases purpose <;> simp [liftSweep, overtakes, dispels, found]
        · have size := size_of_lookup? found
          cases purpose with
          | shutdown =>
              simp [liftSweep, overtakes, dispels, size]
              grind
          | demand => simp [liftSweep, overtakes, dispels, found, size]
  | unregister identifier =>
      simp only [step, Registry.remove]
      rcases found : connection.registry.lookup? identifier with - | session
      · simp [overtakes, dispels]
      · have size := size_of_lookup? found
        simp [overtakes, dispels, size]
        grind
  | register session identifier buffer =>
      simp only [step]
      rcases inserted : connection.registry.insert? identifier session with - | extended
      · simp [overtakes, dispels]
      · have size := size_of_insert? inserted
        simp [overtakes, dispels, size]
        grind
  | withdraw identifier buffer =>
      simp only [step, Registry.remove]
      rcases found : connection.registry.lookup? identifier with - | session
      · simp [refill, overtakes, dispels, found]
        grind
      · have size := size_of_lookup? found
        simp [overtakes, dispels, found, size]
        grind
  | react | shut | identify | route | vet | confirm =>
      simp only [step]
      split <;> simp [overtakes, dispels]
  | _ => simp [step, refill, overtakes, dispels]

theorem kept_exchange {lasting : ConnectionId → Prop}
    (exchange : WatchedExchange (component Callback Session) (listing Callback Session) connection
      lasting move taken next put) : Kept connection move taken next put := by
  cases exchange with
  | plain exchange =>
      cases exchange with
      | work task _ => exact kept_work connection task
      | «begin» request =>
          rcases request with _ | _ | _ | _ | _ | _ | _ | _ | _ | _ | _ | ⟨_, _, _, _ | _⟩ | _
          all_goals simp [Kept, arrived, departed, overtakes, dispels]
      | finish request reply =>
          have resumed := total_resumed request reply
          simp [Kept, arrived, departed, component, resumed, overtakes, dispels]
      | enter method =>
          cases method
          all_goals
            simp [Kept, arrived, departed, component, begun, Method.holds, overtakes, dispels]
  | @list task _ keys follows _ =>
      cases task with
      | sweep task =>
          rcases task with purpose | _ <;> cases follows
          cases purpose <;> simp [Kept, arrived, departed, overtakes, dispels]
      | _ => cases follows

/-! ## A whole run -/

/-- A listing that takes its time leaves the connection as it is, like any other. -/
theorem moved_of_watched {lasting : ConnectionId → Prop}
    (exchange : WatchedExchange (component Callback Session) (listing Callback Session) connection
      lasting move taken next put) : moved connection move = next := by
  cases exchange with
  | plain exchange => exact moved_of_exchange exchange
  | @list task _ keys follows _ =>
      cases task with
      | sweep task =>
          rcases task with purpose | _ <;> cases follows
          rfl
      | _ => cases follows

/-- The books after some moves, with the sessions that were counted only once. -/
structure Balanced (first : Connection Callback Session)
    (moves : List (ConnectionMove Callback Session)) (connection : Connection Callback Session)
    (frames : Multiset (ConnectionFrame Callback Session)) : Prop where
  reached : Connection.after first moves = connection
  even : arrived connection frames + .ofNat ((scenes first moves).countP overtakes) =
    departed connection frames +
      .ofNat (connection.registry.size + (scenes first moves).countP dispels)

theorem Balanced.exchange {first : Connection Callback Session} {lasting : ConnectionId → Prop}
    {moves : List (ConnectionMove Callback Session)}
    {rest : Multiset (ConnectionFrame Callback Session)}
    (balanced : Balanced first moves connection (↑taken + rest))
    (exchange : WatchedExchange (component Callback Session) (listing Callback Session) connection
      lasting move taken next put) : Balanced first (moves ++ [move]) next (↑put + rest) := by
  obtain ⟨rfl, even⟩ := balanced
  have kept := kept_exchange exchange
  constructor
  · rw [after_append]
    exact moved_of_watched exchange
  · simp only [Kept, arrived, departed, scenes_concat, List.countP_append, total_add,
      UInt64.ofNat_add] at even kept ⊢
    grind

theorem balanced_new {config : Config} {first : Connection Callback Session}
    (opened : Connection.new config = .ok first) : Balanced first [] first 0 := by
  refine ⟨rfl, ?_⟩
  rw [new_eq opened]
  rfl

/--
When all threads have returned, as many sessions have been counted as created as are registered or have
been counted as closed, except that each session is not counted as created whose thread was overtaken
by the one that closes the connection, and each one not as closed that was taken out on demand.
-/
theorem created_eq_closed_but_overtaken {config : Config} {first : Connection Callback Session}
    {count : Nat} {moves : List (Nat × ConnectionMove Callback Session)}
    {last : ConnectionWatch Callback Session} (opened : Connection.new config = .ok first)
    (run : WatchedRun (component Callback Session) (listing Callback Session)
      (.start (listing Callback Session) ⟨first, List.replicate count []⟩) moves last)
    (quiet : last.threads.Quiet) :
    let history := scenes first (moves.map Prod.snd)
    last.threads.state.created + .ofNat (history.countP overtakes) =
      last.threads.state.sessionsClosed +
        .ofNat (last.threads.state.registry.size + history.countP dispels) := by
  intro history
  have idle : (Threads.gathered (⟨first, List.replicate count []⟩ : Threads _ _ _)) =
      (0 : Multiset (ConnectionFrame Callback Session)) :=
    gathered_of_quiet fun stack member => List.eq_of_mem_replicate member
  have balanced : Balanced first (moves.map Prod.snd) last.threads.state last.threads.gathered :=
    run.invariant_of_exchange (Balanced first) (fun exchange before => before.exchange exchange)
      (idle ▸ balanced_new opened)
  have even := balanced.even
  rw [gathered_of_quiet quiet] at even
  simpa [arrived, departed] using even

/--
One thread has just registered a session when another one closes the connection and takes it out; then
the first one finds the connection closed and nothing to take out.
-/
def overtaking : List (Nat × Choice (Request Nat Nat) (Method Nat) Reply) :=
  List.flatten
    [turn 0 (admission (answers .empty)), turn 0 [.proceed],
      turn 1 (.enter .close :: List.replicate 5 .proceed ++ [.finish others] ++
        List.replicate 6 .proceed ++ [.finish others, .proceed]),
      turn 0 (List.replicate 2 .proceed), turn 0 departure]

theorem balance_after_overtaking :
    let trace := ThreadTrace.follow (component Nat Nat) ⟨{}, List.replicate 2 []⟩ overtaking
    trace.threads.Quiet ∧
      (scenes {} (trace.moves.map Prod.snd)).countP overtakes = 1 ∧
        trace.threads.state.created + 1 = trace.threads.state.sessionsClosed + 0 := by
  intro trace
  have opened : Connection.new {} = .ok ({} : Connection Nat Nat) := rfl
  have empty : ∀ stack ∈ trace.threads.frames, stack.isEmpty = true := by decide +kernel
  have quiet : trace.threads.Quiet := fun stack member => List.isEmpty_iff.1 (empty stack member)
  have run : ThreadRun (component Nat Nat) ⟨{}, List.replicate 2 []⟩ trace.moves trace.threads :=
    ThreadTrace.run_follow (component Nat Nat) _ overtaking
  have overtaken : (scenes {} (trace.moves.map Prod.snd)).countP overtakes = 1 := by decide +kernel
  have left : trace.threads.state.registry.size +
      (scenes {} (trace.moves.map Prod.snd)).countP dispels = 0 := by decide +kernel
  clear_value trace
  obtain ⟨lasting, run⟩ := ThreadRun.exists_watched (listing Nat Nat)
    (.start (listing Nat Nat) ⟨{}, List.replicate 2 []⟩) run
  have balance := created_eq_closed_but_overtaken opened run quiet
  simp only [overtaken, left] at balance
  exact ⟨quiet, overtaken, balance⟩

/-- All have returned, and a session has been closed, but none was created. -/
theorem more_closed_than_created_after_overtaking :
    let trace := ThreadTrace.follow (component Nat Nat) ⟨{}, List.replicate 2 []⟩ overtaking
    ThreadRun (component Nat Nat) ⟨{}, List.replicate 2 []⟩ trace.moves trace.threads ∧
      trace.threads.Quiet ∧ trace.threads.state.created = 0 ∧
        trace.threads.state.sessionsClosed = 1 ∧ trace.threads.state.registry.size = 0 := by
  intro trace
  have empty : ∀ stack ∈ trace.threads.frames, stack.isEmpty = true := by decide +kernel
  refine ⟨ThreadTrace.run_follow (component Nat Nat) _ overtaking,
    fun stack member => List.isEmpty_iff.1 (empty stack member), ?_, ?_, ?_⟩
  · decide +kernel
  · decide +kernel
  · decide +kernel

end DatagramMux.Connection
