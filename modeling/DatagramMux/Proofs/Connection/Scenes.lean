import DatagramMux.Proofs.Connection.Departure

/-!
# Moves with the states in which they are made

What a move of a connection achieves may depend on what the connection remembers: whether it is
closed, or whether an identifier is registered. A scene is a move together with the state in which it
is made, and a history lists the scenes of a run in order. Somebody may also change the registry
directly while one thread uses the connection; a chronicle is the history of such a run.
-/

namespace DatagramMux.Connection

open Component

variable {Callback Session : Type}
variable {first connection last : Connection Callback Session}

/-- A move of a connection with the state in which it is made. -/
abbrev Scene (Callback Session : Type) :=
  Connection Callback Session × ConnectionMove Callback Session

/-- The scenes of moves that are made one after the other. -/
def scenes (first : Connection Callback Session) :
    List (ConnectionMove Callback Session) → List (Scene Callback Session)
  | [] => []
  | move :: moves => (first, move) :: scenes (moved first move) moves

theorem scenes_concat (first : Connection Callback Session)
    (moves : List (ConnectionMove Callback Session)) (move : ConnectionMove Callback Session) :
    scenes first (moves ++ [move]) = scenes first moves ++ [(after first moves, move)] := by
  induction moves generalizing first with
  | nil => rfl
  | cons earlier moves ih =>
      rw [List.cons_append, scenes, ih, scenes, List.cons_append]
      rfl

theorem mem_of_mem_scenes {first : Connection Callback Session}
    {moves : List (ConnectionMove Callback Session)} {scene : Scene Callback Session}
    (member : scene ∈ scenes first moves) : scene.2 ∈ moves := by
  induction moves generalizing first with
  | nil => cases member
  | cons move moves ih =>
      rcases List.mem_cons.1 member with rfl | later
      · exact List.mem_cons_self
      · exact List.mem_cons_of_mem move (ih later)

/-- A run of one thread with its history, during which somebody may change the registry directly. -/
inductive Chronicle (first : Connection Callback Session) :
    List (Scene Callback Session) → Connection Callback Session →
      List (ConnectionFrame Callback Session) → Prop where
  | start : Chronicle first [] first []
  | move {history : List (Scene Callback Session)} {connection next : Connection Callback Session}
      {stack nextStack : List (ConnectionFrame Callback Session)}
      {move : ConnectionMove Callback Session} :
      Chronicle first history connection stack →
        Step (component Callback Session) connection stack move next nextStack →
          Chronicle first (history ++ [(connection, move)]) next nextStack
  | meddle {history : List (Scene Callback Session)} {connection : Connection Callback Session}
      {stack : List (ConnectionFrame Callback Session)} (registry : Registry Session) :
      Chronicle first history connection stack →
        Chronicle first history { connection with registry := registry } stack

variable {stack : List (ConnectionFrame Callback Session)}

/-- A run in which nobody touches the registry otherwise. -/
theorem chronicle_of_run {moves : List (ConnectionMove Callback Session)}
    (run : Run (component Callback Session) first [] moves last stack) :
    Chronicle first (scenes first moves) last stack := by
  refine run.invariant_of_reached (fun moves connection stack =>
    Chronicle first (scenes first moves) connection stack) ?_ .start
  intro moves connection stack move next nextStack reached step before
  rw [scenes_concat, after_of_run reached]
  exact before.move step

/-! ## One thread -/

theorem Fit.meddled {task : Task Callback Session} (fit : Fit connection (.task task))
    (registry : Registry Session) : Fit { connection with registry := registry } (.task task) := by
  cases task <;> exact fit

/--
Whatever is registered, the task on top of the only stack relies on nothing but what was found by the
frame before it.
-/
structure Steady (connection : Connection Callback Session)
    (stack : List (ConnectionFrame Callback Session)) : Prop where
  top : ∀ task, stack.head? = some (.task task) → Fit connection (.task task)
  below : ∀ frame ∈ stack.tail, lies frame = true

namespace Steady

variable {next : Connection Callback Session} {move : ConnectionMove Callback Session}
variable {put rest nextStack : List (ConnectionFrame Callback Session)}

theorem fit_of_lies {task : Task Callback Session} (below : lies (.task task) = true) :
    Fit connection (.task task) := by
  cases task <;> trivial

theorem append (nested : Nested connection put) (below : ∀ frame ∈ rest, lies frame = true) :
    Steady connection (put ++ rest) := by
  rcases put with - | ⟨frame, put⟩
  · refine ⟨fun task top => fit_of_lies (below _ (List.mem_of_mem_head? top)), fun frame member => ?_⟩
    exact below frame (List.mem_of_mem_tail member)
  · refine ⟨fun task top => nested.top _ top, fun other member => ?_⟩
    rcases List.mem_append.1 member with inPut | inRest
    · exact (nested.below other inPut).1
    · exact below other inRest

theorem exchange (steady : Steady connection stack)
    (step : Step (component Callback Session) connection stack move next nextStack) :
    ∃ taken put rest, stack = taken ++ rest ∧ nextStack = put ++ rest ∧
      Exchange (component Callback Session) connection move taken next put ∧
        (∀ task, .task task ∈ taken → Fit connection (.task task)) ∧
          ∀ frame ∈ rest, lies frame = true := by
  have calls (frame : ConnectionFrame Callback Session) (under : frame.isInside = true) :
      lies frame = true := by
    cases frame with
    | task | call => cases under
    | inside => rfl
  obtain ⟨taken, put, rest, rfl, rfl, exchange, below⟩ :=
    step.exchange_of_tail calls steady.below
  refine ⟨taken, put, rest, rfl, rfl, exchange, fun task member => ?_, below⟩
  cases exchange with
  | work =>
      rw [List.mem_singleton.1 member]
      exact steady.top _ rfl
  | «begin» | finish => cases List.mem_singleton.1 member
  | enter => cases member

theorem step (steady : Steady connection stack)
    (step : Step (component Callback Session) connection stack move next nextStack) :
    Steady next nextStack := by
  obtain ⟨taken, put, rest, rfl, rfl, exchange, fit, below⟩ := steady.exchange step
  cases exchange with
  | work task => exact append (fit task List.mem_cons_self).step below
  | «begin» request => exact ⟨fun _ top => (nomatch top), below⟩
  | finish request reply => exact append (nested_resumed connection request reply) below
  | enter method =>
      refine append (.singleton ?_) below
      cases method <;> trivial

end Steady

theorem Chronicle.steady {history : List (Scene Callback Session)}
    (chronicle : Chronicle first history last stack) : Steady last stack := by
  induction chronicle with
  | start => exact ⟨fun _ top => (nomatch top), fun _ member => (nomatch member)⟩
  | move _ step ih => exact ih.step step
  | meddle registry _ ih => exact ⟨fun task top => (ih.top task top).meddled registry, ih.below⟩

end DatagramMux.Connection
