import DatagramMux.Proofs.Connection.Scenes

/-!
# What becomes of a datagram

Each datagram that a connection receives meets exactly one fate: its header is undecipherable, a
session processes it, or the factory is asked for a session and fails, declines, or creates one, which
then is too late, is refused or is admitted. While the datagram is on its way, reading may begin again
inside of the factory or of a session, sessions come and go, and the connection may be closed; the
counters are raised at other moments than those at which a fate is decided. So the books are kept in
columns: a move may demand an entry in a column, another move makes it, and in between the frames on the
stack show what is outstanding.
-/

namespace DatagramMux.Connection

open Component

variable {Callback Session : Type}

inductive Fate where
  /-- The header of the datagram yields no identifier. -/
  | undecipherable
  | processed
  /-- The factory fails to create a session. -/
  | failed
  | declined
  /-- The connection was closed while the session was created. -/
  | late
  /-- The identifier was taken while the session was created. -/
  | refused
  /-- The new session is registered. -/
  | admitted
  deriving DecidableEq

/-- The length of the datagram that is received in a scene. -/
def received? : Scene Callback Session → Option Nat
  | (_, .finish (.fill _) (_, .ok (.datagram length _))) => some length
  | _ => none

/-- The fate that is decided in a scene. -/
def fate? : Scene Callback Session → Option Fate
  | (connection, .work (.identify arrival)) =>
      match connection.identifier? arrival.datagram with
      | none => some .undecipherable
      | some _ => none
  | (_, .begin (.process _ _ _)) => some .processed
  | (_, .finish (.create _ _) (.error _)) => some .failed
  | (_, .finish (.create _ _) (.ok none)) => some .declined
  | (connection, .work (.vet _ _ _)) => if connection.closed then some .late else none
  | (connection, .work (.register session identifier _)) =>
      match connection.registry.insert? identifier session with
      | none => some .refused
      | some _ => some .admitted
  | _ => none

/-- Whether a new session that cannot stay is closed. -/
def discards : Scene Callback Session → Bool
  | (_, .begin (.discard _ _)) => true
  | _ => false

/-! ## The books -/

inductive Column where
  | received
  | bytes
  | dropped
  | declined
  | created
  /-- A fate for each datagram. -/
  | decided
  /-- A new session is closed. -/
  | discarded
  deriving DecidableEq

/-- What is to be entered in a column for some datagrams and some fates. -/
def Column.demand (lengths : List Nat) (fates : List Fate) : Column → Nat
  | .received | .decided => lengths.length
  | .bytes => lengths.sum
  | .dropped => fates.count .undecipherable + fates.count .refused
  | .declined => fates.count .declined
  | .created => fates.count .admitted
  | .discarded => fates.count .late + fates.count .refused

/-- What is entered in a column in a scene. -/
def Column.entry (scene : Scene Callback Session) : Column → Nat
  | .received => match scene.2 with
    | .work (.countDatagram _ _) => 1
    | _ => 0
  | .bytes => match scene.2 with
    | .work (.countBytes _ length) => length
    | _ => 0
  | .dropped => match scene.2 with
    | .work (.countUnidentified _) | .work (.countRefused _ _) => 1
    | _ => 0
  | .declined => match scene.2 with
    | .work (.countDeclined _) => 1
    | _ => 0
  | .created => match scene.2 with
    | .work (.countCreated _) => 1
    | _ => 0
  | .decided => (fate? scene).isSome.toNat
  | .discarded => (discards scene).toNat

/-- What a frame shows to be outstanding in a column. -/
def Column.outstanding : Column → ConnectionFrame Callback Session → Nat
  | .received, .task (.countDatagram _ _) => 1
  | .bytes, .task (.countDatagram _ length) | .bytes, .task (.countBytes _ length) => length
  | .dropped, .task (.countUnidentified _) | .dropped, .task (.countRefused _ _) => 1
  | .declined, .task (.countDeclined _) => 1
  | .created, .task (.confirm _ _) | .created, .task (.countCreated _) => 1
  | .decided, .task (.countDatagram _ _) | .decided, .task (.countBytes _ _)
  | .decided, .task (.identify _) | .decided, .task (.route _ _) | .decided, .call (.process _ _ _)
  | .decided, .call (.create _ _) | .decided, .inside (.create _ _)
  | .decided, .call (.assign _ _ _) | .decided, .inside (.assign _ _ _)
  | .decided, .task (.vet _ _ _) | .decided, .task (.register _ _ _) => 1
  | .discarded, .task (.countRefused _ _) | .discarded, .call (.discard _ _) => 1
  | _, _ => 0

theorem Column.demand_append (column : Column) (lengths later : List Nat) (fates more : List Fate) :
    column.demand (lengths ++ later) (fates ++ more) =
      column.demand lengths fates + column.demand later more := by
  cases column <;> simp only [demand, List.length_append, List.sum_append, List.count_append] <;> omega

section Exchange

variable {connection next : Connection Callback Session} {move : ConnectionMove Callback Session}
variable {taken put : List (ConnectionFrame Callback Session)}

theorem outstanding_liftFlusher (column : Column) (frames : List (Flusher.FlusherFrame Callback)) :
    ((frames.map liftFlusher : List (ConnectionFrame Callback Session)).map
      column.outstanding).sum = 0 := by
  refine List.sum_eq_zero (List.forall_mem_map.2 ?_)
  apply forall_mem_liftFlusher (fun frame => column.outstanding frame = 0)
  all_goals cases column <;> intros <;> rfl

theorem outstanding_liftSweep (column : Column)
    (frames : List (Registry.SweepFrame Session Purpose)) :
    ((frames.map liftSweep : List (ConnectionFrame Callback Session)).map
      column.outstanding).sum = 0 := by
  refine List.sum_eq_zero (List.forall_mem_map.2 ?_)
  apply forall_mem_liftSweep (fun frame => column.outstanding frame = 0)
  all_goals cases column <;> intros <;> rfl

theorem entry_work (column : Column) (task : Task Callback Session)
    (fit : Fit connection (.task task)) :
    column.entry (connection, .work task) +
        ((step connection task).2.map column.outstanding).sum =
      column.outstanding (.task task) +
        column.demand (received? (connection, .work task)).toList
          (fate? (connection, .work task)).toList := by
  cases task with
  | flusher task =>
      simp only [step, outstanding_liftFlusher]
      cases column <;> rfl
  | sweep task =>
      simp only [step, outstanding_liftSweep]
      cases column <;> rfl
  | hold method => cases column <;> cases method <;> rfl
  | countDatagram arrival length =>
      cases column <;> simp [step, Column.entry, Column.outstanding, received?, fate?, discards,
        Column.demand]
  | identify arrival =>
      cases read : ConnectionId.ofPacket? arrival.datagram connection.config.localIdLength.toNat
      all_goals
        simp only [step, fate?, identifier?, read]
        cases column <;> simp [Column.entry, fate?, identifier?, read] <;> rfl
  | vet session identifier buffer =>
      cases closed : connection.closed
      all_goals
        simp only [step, fate?, closed]
        cases column <;> simp [Column.entry, fate?, closed] <;> rfl
  | register session identifier buffer =>
      cases inserted : connection.registry.insert? identifier session
      all_goals
        simp only [step, fate?, inserted]
        cases column <;> simp [Column.entry, fate?, inserted] <;> rfl
  | confirm identifier buffer =>
      have alive : connection.closed = false := fit
      simp only [step, alive]
      cases column <;> rfl
  | withdraw => cases fit
  | route | unregister | react | shut =>
      simp only [step]
      split <;> cases column <;> rfl
  | _ => cases column <;> rfl

theorem entry_finish (column : Column) (request : Request Callback Session) (reply : Reply request) :
    column.entry (connection, .finish request reply) +
        ((resumed request reply).map column.outstanding).sum =
      column.outstanding (.inside request : ConnectionFrame Callback Session) +
        column.demand (received? (connection, .finish request reply)).toList
          (fate? (connection, .finish request reply)).toList := by
  fun_cases resumed request reply
  case case21 request =>
    rw [outstanding_liftSweep]
    cases column <;> rfl
  case case22 request =>
    rw [outstanding_liftFlusher]
    cases column <;> rfl
  all_goals cases column <;> rfl

/-- What is demanded in a move is entered, or it is outstanding in what the move leaves behind. -/
theorem entry_exchange (column : Column)
    (exchange : Exchange (component Callback Session) connection move taken next put)
    (fit : ∀ task, .task task ∈ taken → Fit connection (.task task)) :
    column.entry (connection, move) + (put.map column.outstanding).sum =
      (taken.map column.outstanding).sum +
        column.demand (received? (connection, move)).toList (fate? (connection, move)).toList := by
  cases exchange with
  | work task _ =>
      rw [List.map_singleton, List.sum_singleton]
      exact entry_work column task (fit task (List.mem_singleton_self _))
  | «begin» request => cases request <;> cases column <;> rfl
  | finish request reply =>
      rw [List.map_singleton, List.sum_singleton]
      exact entry_finish column request reply
  | enter method => cases method <;> cases column <;> rfl

end Exchange

/-! ## A whole run -/

section Chronicle

variable {config : Config} {first last connection : Connection Callback Session}
variable {history : List (Scene Callback Session)}
variable {stack : List (ConnectionFrame Callback Session)}

/-- The lengths of the datagrams that were received. -/
def lengths (history : List (Scene Callback Session)) : List Nat := history.filterMap received?

/-- The fates that the datagrams have met. -/
def fates (history : List (Scene Callback Session)) : List Fate := history.filterMap fate?

/-- Whatever was demanded has been entered, or is outstanding. -/
theorem Chronicle.balance (chronicle : Chronicle first history last stack) (column : Column) :
    (history.map fun scene => column.entry scene).sum + (stack.map column.outstanding).sum =
      (column.demand (lengths history) (fates history)) := by
  induction chronicle with
  | start => cases column <;> rfl
  | move before step ih =>
      obtain ⟨taken, put, rest, rfl, rfl, exchange, fit, -⟩ := before.steady.exchange step
      have entry := entry_exchange column exchange fit
      simp only [lengths, fates, List.filterMap_append, Column.demand_append, List.map_append,
        List.sum_append, List.map_singleton, List.sum_singleton, filterMap_singleton] at ih entry ⊢
      omega
  | meddle registry _ ih => exact ih

/-- The counter that a column is entered in, if there is one. -/
def Column.counter? : Column → Option (Connection Callback Session → UInt64)
  | .received => some Connection.received
  | .bytes => some Connection.receivedBytes
  | .dropped => some Connection.dropped
  | .declined => some Connection.declined
  | .created => some Connection.created
  | .decided | .discarded => none

theorem counter_moved (connection : Connection Callback Session)
    (move : ConnectionMove Callback Session) {column : Column}
    {counter : Connection Callback Session → UInt64} (counts : column.counter? = some counter) :
    counter (moved connection move) =
      counter connection + .ofNat (column.entry (connection, move)) := by
  cases move with
  | work task =>
      change counter (step connection task).1 = _
      cases column <;> cases counts
      all_goals
        fun_cases step connection task <;> simp [Column.entry]
  | _ => cases column <;> cases counts <;> simp [moved, Column.entry]

theorem Chronicle.counted (opened : Connection.new config = .ok first)
    (chronicle : Chronicle first history last stack) {column : Column}
    {counter : Connection Callback Session → UInt64} (counts : column.counter? = some counter) :
    counter last = .ofNat (history.map fun scene => column.entry scene).sum := by
  induction chronicle with
  | start =>
      rw [new_eq opened]
      cases column <;> cases counts <;> rfl
  | move before step ih =>
      obtain ⟨taken, put, rest, rfl, rfl, exchange⟩ := step.exchange
      rw [← moved_of_exchange exchange, counter_moved _ _ counts, ih, List.map_append, List.sum_append,
        List.map_singleton, List.sum_singleton, UInt64.ofNat_add]
  | meddle registry _ ih =>
      rw [← ih]
      cases column <;> cases counts <;> rfl

/-- When the thread has returned, a counter shows what was demanded. -/
theorem Chronicle.counter_eq (opened : Connection.new config = .ok first)
    (chronicle : Chronicle first history last []) (column : Column) :
    ∀ counter ∈ (column.counter? : Option (Connection Callback Session → UInt64)),
      counter last = .ofNat (column.demand (lengths history) (fates history)) := by
  intro counter counts
  rw [chronicle.counted opened counts, ← chronicle.balance column, List.map_nil, List.sum_nil,
    Nat.add_zero]

theorem sum_toNat (holds : Scene Callback Session → Bool) (history : List (Scene Callback Session)) :
    (history.map fun scene => (holds scene).toNat).sum = history.countP holds := by
  induction history with
  | nil => rfl
  | cons scene history ih =>
      rw [List.map_cons, List.sum_cons, ih, List.countP_cons]
      cases holds scene <;> simp [Nat.add_comm]

theorem length_eq_counts (fates : List Fate) :
    fates.length = fates.count .undecipherable + fates.count .refused + fates.count .declined +
      fates.count .admitted + fates.count .processed + fates.count .failed + fates.count .late := by
  induction fates with
  | nil => rfl
  | cons fate fates ih =>
      rw [List.length_cons, ih]
      cases fate <;> simp <;> omega

/--
The books of a connection that nobody is in the middle of using: each datagram has met exactly one
fate, the counters show how many have met which, and the sessions that could not stay were closed.
-/
structure Reckoned (history : List (Scene Callback Session)) (last : Connection Callback Session) :
    Prop where
  once : (fates history).length = (lengths history).length
  received : last.received = .ofNat (lengths history).length
  bytes : last.receivedBytes = .ofNat (lengths history).sum
  dropped : last.dropped =
    .ofNat ((fates history).count .undecipherable + (fates history).count .refused)
  declined : last.declined = .ofNat ((fates history).count .declined)
  created : last.created = .ofNat ((fates history).count .admitted)
  whole : last.received = last.dropped + last.declined + last.created +
    .ofNat ((fates history).count .processed) + .ofNat ((fates history).count .failed) +
      .ofNat ((fates history).count .late)
  discarded : history.countP discards =
    (fates history).count .late + (fates history).count .refused

/--
Whatever a thread does with a connection, and whatever it does again from inside the factory, a session,
the endpoint or a callback, even if the connection is closed or somebody changes the registry
meanwhile: every datagram is accounted for exactly once.
-/
theorem every_datagram_accounted_for (opened : Connection.new config = .ok first)
    (chronicle : Chronicle first history last []) : Reckoned history last := by
  have once : (fates history).length = (lengths history).length := by
    have balance := chronicle.balance .decided
    rw [fates, List.length_filterMap_eq_countP, ← sum_toNat]
    exact balance
  have shows := chronicle.counter_eq opened
  have received : last.received = .ofNat (lengths history).length := shows .received _ rfl
  have dropped : last.dropped =
      .ofNat ((fates history).count .undecipherable + (fates history).count .refused) :=
    shows .dropped _ rfl
  have declined : last.declined = .ofNat ((fates history).count .declined) := shows .declined _ rfl
  have created : last.created = .ofNat ((fates history).count .admitted) := shows .created _ rfl
  refine ⟨once, received, shows .bytes _ rfl, dropped, declined, created, ?_, ?_⟩
  · rw [received, dropped, declined, created, ← once, length_eq_counts]
    simp only [UInt64.ofNat_add]
  · rw [← sum_toNat]
    exact chronicle.balance .discarded

end Chronicle

/-- Reading begins, and the first datagram is awaited. -/
def awaiting : List (Choice (Request Nat Nat) (Method Nat) Reply) :=
  .enter .fillable :: List.replicate 3 .proceed ++ [.finish (answers .empty), .proceed]

/-- A datagram of the given length is read and goes its way as far as nobody is asked for anything. -/
def arrival (length : Nat) : List (Choice (Request Nat Nat) (Method Nat) Reply) :=
  .finish (answers (.datagram length default)) :: List.replicate 5 .proceed

/-- The factory creates a session. -/
def creation : List (Choice (Request Nat Nat) (Method Nat) Reply) :=
  [.finish (answers .empty), .proceed, .finish (answers .empty)] ++ List.replicate 5 .proceed

/-- The read loop is told that there is nothing to read. -/
def giveUp (found : Fill) : List (Choice (Request Nat Nat) (Method Nat) Reply) :=
  [.finish (answers found), .proceed, .finish (answers found), .proceed, .finish (answers found),
    .proceed]

/--
While the factory creates a session for the first datagram, another one with the same identifier is
read and admitted, and a third one is processed; so the first one is refused. After one without an
identifier and after the session has left, the connection is closed while a session is created.
-/
def nestedReading : List (Choice (Request Nat Nat) (Method Nat) Reply) :=
  List.flatten
    [awaiting, arrival 17, awaiting, arrival 17, creation, arrival 17,
      [.finish (answers .empty), .proceed], giveUp .empty, creation,
      [.finish (answers .empty), .proceed], arrival 0,
      .enter (.closeSession ⟨List.replicate 16 7⟩) :: List.replicate 4 .proceed, arrival 17,
      .enter .close :: List.replicate 9 .proceed, [.finish (answers .empty), .proceed], creation,
      [.finish (answers .empty), .proceed], giveUp .closed]

theorem reckoned_after_nestedReading :
    let trace := Trace.follow (component Nat Nat) {} nestedReading
    let history := scenes {} trace.moves
    trace.stack = [] ∧ fates history = [.admitted, .processed, .refused, .undecipherable, .late] ∧
      Reckoned history trace.state := by
  intro trace history
  have opened : Connection.new {} = .ok ({} : Connection Nat Nat) := rfl
  have done : trace.stack = [] := List.isEmpty_iff.1 (by decide +kernel)
  have met : fates history = [.admitted, .processed, .refused, .undecipherable, .late] := by
    decide +kernel
  have run : Run (component Nat Nat) {} [] trace.moves trace.state trace.stack :=
    Trace.run_follow (component Nat Nat) {} nestedReading
  clear_value trace
  rw [done] at run
  exact ⟨done, met, every_datagram_accounted_for opened (chronicle_of_run run)⟩

end DatagramMux.Connection
