import DatagramMux.Proofs.Connection.Nesting
import DatagramMux.Proofs.Flusher.Reentrancy
import DatagramMux.Proofs.Machine.Projection

/-!
# The flusher of a connection

A connection uses one flusher as a part of itself. Whatever is done with the connection by one
thread, its flusher goes through a run on one stack, so that all that is known of such runs holds of
what the connection writes as well.
-/

namespace DatagramMux.Connection

open Component

variable {Callback Session : Type}

/-- What a method of the connection asks of the flusher. -/
def Method.flusher? : Method Callback → Option (Flusher.Method Callback)
  | .write entry | .send entry => some (.offer entry)
  | .complete ticket completion => some (.complete ticket completion)
  | .fillable | .closeSession _ | .close | .closeSessions | .abandon => none

/-- The frame of the flusher that a frame of its connection is; reacting to a failure is a call. -/
def flusherFrame? : ConnectionFrame Callback Session → Option (Flusher.FlusherFrame Callback)
  | .task (.hold method) => method.flusher?.map fun method => .task (Flusher.begun method)
  | .task (.flusher task) => some (.task task)
  | .task .react => some (.call .failure)
  | .call (.flusher (.write ticket entry)) => some (.call (.write ticket entry))
  | .inside (.flusher (.write ticket entry)) => some (.inside (.write ticket entry))
  | .call (.flusher (.notify callback outcome next)) => some (.call (.notify callback outcome next))
  | .inside (.flusher (.notify callback outcome next)) =>
      some (.inside (.notify callback outcome next))
  | _ => none

/-- The moves of the flusher that a move of its connection is. -/
def flusherMoves : ConnectionMove Callback Session → List (Flusher.FlusherMove Callback)
  | .enter method => method.flusher?.toList.map .enter
  | .work (.flusher task) => [.work task]
  | .work .react => [.begin .failure, .finish .failure ()]
  | .work (.countClosed _) => [.enter .close]
  | .begin (.flusher (.write ticket entry)) => [.begin (.write ticket entry)]
  | .finish (.flusher (.write ticket entry)) () => [.finish (.write ticket entry) ()]
  | .begin (.flusher (.notify callback outcome next)) => [.begin (.notify callback outcome next)]
  | .finish (.flusher (.notify callback outcome next)) () =>
      [.finish (.notify callback outcome next) ()]
  | _ => []

/-- What has become of the writes of a connection. -/
def journal (moves : List (ConnectionMove Callback Session)) : Flusher.Journal Callback :=
  .after (moves.flatMap flusherMoves)

/-! ## Frames and moves -/

/-- Every frame that the flusher puts on the stack is shown again by its connection. -/
theorem filterMap_liftFlusher {frames : List (Flusher.FlusherFrame Callback)}
    (calls : ∀ frame ∈ frames, frame.isInside = false) :
    (frames.map liftFlusher : List (ConnectionFrame Callback Session)).filterMap flusherFrame? =
      frames := by
  induction frames with
  | nil => rfl
  | cons frame frames ih =>
      have shown : flusherFrame? (liftFlusher frame : ConnectionFrame Callback Session) =
          some frame := by
        cases frame with
        | task task => rfl
        | call request => cases request <;> rfl
        | inside request => cases calls _ List.mem_cons_self
      rw [List.map_cons, List.filterMap_cons_some shown,
        ih fun other member => calls other (List.mem_cons_of_mem frame member)]

theorem filterMap_liftSweep (frames : List (Registry.SweepFrame Session Purpose)) :
    (frames.map liftSweep : List (ConnectionFrame Callback Session)).filterMap flusherFrame? =
      [] :=
  List.filterMap_eq_nil_iff.2
    (forall_mem_liftSweep (fun frame => flusherFrame? frame = none) (fun _ => rfl) (fun _ => rfl)
      (fun _ => rfl) (fun _ => rfl) frames)

/-- No step of the flusher leads into the middle of a call. -/
theorem not_isInside_of_mem_step {flusher : Flusher Callback} {task : Flusher.Task Callback} :
    ∀ frame ∈ (Flusher.step flusher task).2, frame.isInside = false := by
  fun_cases Flusher.step flusher task <;>
    simp [Frame.isInside]

/-- The flusher may be entered whenever only frames that may lie below others are there. -/
theorem enterable_filterMap {rest : List (ConnectionFrame Callback Session)}
    (below : ∀ frame ∈ rest, lies frame = true) : Enterable (rest.filterMap flusherFrame?) := by
  intro part top
  obtain ⟨frame, member, shown⟩ := List.mem_filterMap.1 (List.mem_of_mem_head? top)
  have lying := below frame member
  unfold flusherFrame? at shown
  split at shown
  · cases lying
  · cases lying
  · cases lying
  · cases lying
  · cases shown
    rfl
  · cases lying
  · cases shown
    rfl
  · cases shown

section Exchange

variable {connection : Connection Callback Session}
variable {others : List (Flusher.FlusherFrame Callback)}

theorem enter_flusher (enterable : Enterable others) (method : Method Callback)
    (flusher : Flusher Callback) :
    Run (Flusher.component Callback) flusher others
      (flusherMoves (.enter method : ConnectionMove Callback Session)) flusher
      ((method.flusher?.map fun method => .task (Flusher.begun method)).toList ++ others) := by
  cases asked : method.flusher? with
  | none =>
      simp only [flusherMoves, asked]
      exact .refl _ _
  | some asked' =>
      simp only [flusherMoves, asked]
      exact run_enter (Flusher.component Callback) flusher asked' enterable

/-- A task of the connection is none, one or two moves of the flusher. -/
theorem work_flusher (enterable : Enterable others) (task : Task Callback Session) :
    Run (Flusher.component Callback) connection.flusher
      ((flusherFrame? (.task task : ConnectionFrame Callback Session)).toList ++ others)
      (flusherMoves (.work task : ConnectionMove Callback Session)) (step connection task).1.flusher
      ((step connection task).2.filterMap flusherFrame? ++ others) := by
  cases task with
  | flusher task =>
      have shown : ((Flusher.step connection.flusher task).2.map liftFlusher :
          List (ConnectionFrame Callback Session)).filterMap flusherFrame? =
            (Flusher.step connection.flusher task).2 :=
        filterMap_liftFlusher not_isInside_of_mem_step
      simp only [step, shown]
      exact run_work (Flusher.component Callback) connection.flusher task rfl
  | sweep task =>
      simp only [step, filterMap_liftSweep]
      exact .refl _ _
  | hold method =>
      have shown : ([.task (begun method), .task .letGo] :
          List (ConnectionFrame Callback Session)).filterMap flusherFrame? =
            (method.flusher?.map fun method => .task (Flusher.begun method)).toList := by
        cases method <;> rfl
      simp only [step, shown]
      exact .refl _ _
  | react =>
      have shown : (step connection .react).2.filterMap flusherFrame? = [] ∧
          (step connection (.react : Task Callback Session)).1.flusher = connection.flusher := by
        simp only [step]
        split <;> exact ⟨rfl, rfl⟩
      rw [shown.1, shown.2]
      exact (run_begin (Flusher.component Callback) connection.flusher .failure).append
        (run_finish (Flusher.component Callback) connection.flusher .failure ())
  | countClosed closed =>
      exact run_enter (Flusher.component Callback) connection.flusher .close enterable
  | shut | unregister | identify | route | vet | register | confirm | withdraw =>
      simp only [step]
      split <;> exact .refl _ _
  | letGo | borrow | countUnregistered | countDatagram | countBytes | countUnidentified
  | countDeclined | countRefused | countCreated => exact .refl _ _

theorem begin_flusher (request : Request Callback Session) (flusher : Flusher Callback) :
    Run (Flusher.component Callback) flusher
      ((flusherFrame? (.call request : ConnectionFrame Callback Session)).toList ++ others)
      (flusherMoves (.begin request : ConnectionMove Callback Session)) flusher
      ((flusherFrame? (.inside request : ConnectionFrame Callback Session)).toList ++ others) := by
  cases request with
  | flusher request =>
      cases request with
      | write | notify =>
          exact run_begin (Flusher.component Callback) flusher _
      | failure => exact .refl _ _
  | _ => exact .refl _ _

theorem finish_flusher (request : Request Callback Session) (reply : Reply request)
    (flusher : Flusher Callback) :
    Run (Flusher.component Callback) flusher
      ((flusherFrame? (.inside request : ConnectionFrame Callback Session)).toList ++ others)
      (flusherMoves (.finish request reply : ConnectionMove Callback Session)) flusher
      ((resumed request reply).filterMap flusherFrame? ++ others) := by
  cases request with
  | flusher request =>
      cases request with
      | write | notify =>
          exact run_finish (Flusher.component Callback) flusher _ ()
      | failure => exact .refl _ _
  | sweep request =>
      change Run _ _ _ [] _
        (((Registry.sweepResume request).map liftSweep).filterMap flusherFrame? ++ others)
      rw [filterMap_liftSweep]
      exact .refl _ _
  | acquire | assign | discard | interest | shutdownOutput | closeEndpoint => exact .refl _ _
  | release buffer ending => cases ending <;> exact .refl _ _
  | fill buffer =>
      obtain ⟨buffer, cause | ⟨- | - | -⟩⟩ := reply <;> exact .refl _ _
  | isOpen => obtain - | - := reply <;> exact .refl _ _
  | create arrival identifier =>
      obtain error | - | session := reply <;> exact .refl _ _
  | process session arrival identifier =>
      obtain error | consumed := reply <;> exact .refl _ _

end Exchange

/-! ## Whole runs -/

theorem Nested.flusher {connection next : Connection Callback Session}
    {stack nextStack : List (ConnectionFrame Callback Session)}
    {move : ConnectionMove Callback Session} (nested : Nested connection stack)
    (step : Step (component Callback Session) connection stack move next nextStack) :
    Run (Flusher.component Callback) connection.flusher (stack.filterMap flusherFrame?)
      (flusherMoves move) next.flusher (nextStack.filterMap flusherFrame?) := by
  obtain ⟨taken, put, rest, rfl, rfl, exchange, -, below⟩ := nested.exchange step
  have enterable := enterable_filterMap fun frame member => (below frame member).1
  rw [List.filterMap_append, List.filterMap_append]
  cases exchange with
  | work task free =>
      rw [filterMap_singleton]
      exact work_flusher enterable task
  | «begin» request =>
      rw [filterMap_singleton, filterMap_singleton]
      exact begin_flusher request connection.flusher
  | finish request reply =>
      rw [filterMap_singleton]
      exact finish_flusher request reply connection.flusher
  | enter method =>
      have shown : ((component Callback Session).body method).filterMap flusherFrame? =
          (method.flusher?.map fun method => .task (Flusher.begun method)).toList := by
        cases method <;> rfl
      rw [shown]
      exact enter_flusher enterable method connection.flusher

theorem new_eq {config : Config} {connection : Connection Callback Session}
    (opened : Connection.new config = .ok connection) : connection = { config := connection.config } := by
  unfold Connection.new at opened
  split at opened <;> cases opened
  rfl

/-- What one thread does with a connection is a run of its flusher on one stack. -/
theorem flusher_run {config : Config} {first last : Connection Callback Session}
    {moves : List (ConnectionMove Callback Session)}
    {stack : List (ConnectionFrame Callback Session)} (opened : Connection.new config = .ok first)
    (run : Run (component Callback Session) first [] moves last stack) :
    Run (Flusher.component Callback) Flusher.new [] (moves.flatMap flusherMoves) last.flusher
      (stack.filterMap flusherFrame?) := by
  have projected := run.project Connection.flusher flusherFrame?
    flusherMoves Nested.step (fun step nested => Nested.flusher nested step) .nil
  rw [new_eq opened] at projected
  exact projected

end DatagramMux.Connection
