import DatagramMux.Connection.Steps
import DatagramMux.Proofs.Flusher.Ownership
import DatagramMux.Proofs.Machine.Exchange

/-!
# The stack of a connection

If there is only one thread, a connection is entered again only from its own calls. Below the top of
the stack there are then only calls under way and what remains to be done when a method returns, and
what the top frame relies on was found by the frame before it, with nothing happening in between.
-/

namespace DatagramMux.Connection

open Component

variable {Callback Session : Type}

/-- A move of a thread that uses a connection. -/
abbrev ConnectionMove (Callback Session : Type) :=
  Move (Task Callback Session) (Request Callback Session) (Method Callback) Reply

/-- The identifier that a connection reads from a datagram's header. -/
def identifier? (connection : Connection Callback Session) (datagram : Bytes) :
    Option ConnectionId :=
  ConnectionId.ofPacket? datagram connection.config.localIdLength.toNat

/-- What holds of the frame on top of the only stack. -/
def Fit (connection : Connection Callback Session) : ConnectionFrame Callback Session → Prop
  | .task (.route arrival identifier) | .call (.create arrival identifier)
  | .inside (.create arrival identifier) =>
      connection.identifier? arrival.datagram = some identifier
  | .call (.process session arrival identifier) =>
      connection.identifier? arrival.datagram = some identifier ∧
        (identifier, session) ∈ connection.registry.entries
  | .task (.register _ _ _) | .task (.confirm _ _) => connection.closed = false
  | .task (.withdraw _ _) => False
  | _ => True

/-- Whether a frame may lie below others. -/
def lies : ConnectionFrame Callback Session → Bool
  | .inside _ | .task .letGo | .call .closeEndpoint => true
  | _ => false

/-- What lies below others relies on the configuration only. -/
theorem Fit.of_lies {connection other : Connection Callback Session}
    {frame : ConnectionFrame Callback Session} (config : other.config = connection.config)
    (below : lies frame = true) (fit : Fit connection frame) : Fit other frame := by
  cases frame with
  | task task => cases task <;> trivial
  | call request => cases request <;> trivial
  | inside request =>
      cases request with
      | create arrival identifier =>
          unfold Fit identifier? at fit ⊢
          rw [config]
          exact fit
      | _ => trivial

/-- Only the top of a stack may rely on more than the configuration. -/
structure Nested (connection : Connection Callback Session)
    (stack : List (ConnectionFrame Callback Session)) : Prop where
  top : ∀ frame ∈ stack.head?, Fit connection frame
  below : ∀ frame ∈ stack.tail, lies frame = true ∧ Fit connection frame

namespace Nested

variable {connection next : Connection Callback Session}
variable {put rest : List (ConnectionFrame Callback Session)}

theorem nil : Nested connection [] :=
  ⟨fun _ top => (nomatch top), fun _ member => (nomatch member)⟩

theorem cons {frame : ConnectionFrame Callback Session} (fit : Fit connection frame)
    (below : ∀ other ∈ rest, lies other = true ∧ Fit connection other) :
    Nested connection (frame :: rest) :=
  ⟨fun _ top => Option.some.inj top ▸ fit, below⟩

theorem singleton {frame : ConnectionFrame Callback Session} (fit : Fit connection frame) :
    Nested connection [frame] :=
  cons fit fun _ member => (nomatch member)

theorem append (nested : Nested connection put)
    (below : ∀ frame ∈ rest, lies frame = true ∧ Fit connection frame) :
    Nested connection (put ++ rest) := by
  rcases put with - | ⟨frame, put⟩
  · exact ⟨fun frame top => (below frame (List.mem_of_mem_head? top)).2,
      fun frame member => below frame (List.mem_of_mem_tail member)⟩
  · apply cons (nested.top frame rfl)
    intro other member
    rcases List.mem_append.1 member with inPut | inRest
    · exact nested.below other inPut
    · exact below other inRest

end Nested

theorem config_step (connection : Connection Callback Session) (task : Task Callback Session) :
    (step connection task).1.config = connection.config := by
  fun_cases step connection task <;> rfl

/-- What a frame of the flusher is to its connection. -/
theorem forall_liftFlusher {holds : ConnectionFrame Callback Session → Prop}
    (task : ∀ task, holds (.task (.flusher task))) (react : holds (.task .react))
    (call : ∀ request, holds (.call (.flusher request)))
    (inside : ∀ request, holds (.inside (.flusher request)))
    (frame : Flusher.FlusherFrame Callback) : holds (liftFlusher frame) := by
  cases frame with
  | task flusherTask => exact task flusherTask
  | call request =>
      cases request with
      | failure => exact react
      | write | notify => exact call _
  | inside request => exact inside request

/-- What a frame of closing all sessions is to the connection. -/
theorem forall_liftSweep {holds : ConnectionFrame Callback Session → Prop}
    (task : ∀ task, holds (.task (.sweep task)))
    (count : ∀ closed, holds (.task (.countClosed closed)))
    (call : ∀ request, holds (.call (.sweep request)))
    (inside : ∀ request, holds (.inside (.sweep request)))
    (frame : Registry.SweepFrame Session Purpose) : holds (liftSweep frame) := by
  cases frame with
  | task sweepTask => exact task sweepTask
  | call request =>
      cases request with
      | close => exact call _
      | report closed purpose =>
          cases purpose with
          | shutdown => exact count closed
          | demand => exact call _
  | inside request => exact inside request

/-- What all frames of the flusher are to their connection. -/
theorem forall_mem_liftFlusher (holds : ConnectionFrame Callback Session → Prop)
    (task : ∀ task, holds (.task (.flusher task))) (react : holds (.task .react))
    (call : ∀ request, holds (.call (.flusher request)))
    (inside : ∀ request, holds (.inside (.flusher request)))
    (frames : List (Flusher.FlusherFrame Callback)) : ∀ frame ∈ frames.map liftFlusher, holds frame :=
  List.forall_mem_map.2 fun frame _ => forall_liftFlusher task react call inside frame

/-- What all frames of closing all sessions are to the connection. -/
theorem forall_mem_liftSweep (holds : ConnectionFrame Callback Session → Prop)
    (task : ∀ task, holds (.task (.sweep task)))
    (count : ∀ closed, holds (.task (.countClosed closed)))
    (call : ∀ request, holds (.call (.sweep request)))
    (inside : ∀ request, holds (.inside (.sweep request)))
    (frames : List (Registry.SweepFrame Session Purpose)) :
    ∀ frame ∈ frames.map liftSweep, holds frame :=
  List.forall_mem_map.2 fun frame _ => forall_liftSweep task count call inside frame

theorem fit_liftFlusher (connection : Connection Callback Session)
    (frame : Flusher.FlusherFrame Callback) : Fit connection (liftFlusher frame) :=
  forall_liftFlusher (fun _ => trivial) trivial (fun _ => trivial) (fun _ => trivial) frame

theorem fit_liftSweep (connection : Connection Callback Session)
    (frame : Registry.SweepFrame Session Purpose) : Fit connection (liftSweep frame) :=
  forall_liftSweep (fun _ => trivial) (fun _ => trivial) (fun _ => trivial) (fun _ => trivial) frame

theorem length_sweepStep_le (registry : Registry Session) (task : Registry.SweepTask Purpose) :
    (Registry.sweepStep registry task).2.length ≤ 1 := by
  fun_cases Registry.sweepStep registry task <;> simp

theorem Nested.of_map {connection : Connection Callback Session} {Part : Type} {parts : List Part}
    {lift : Part → ConnectionFrame Callback Session} (single : parts.length ≤ 1)
    (fit : ∀ part, Fit connection (lift part)) : Nested connection (parts.map lift) := by
  rcases parts with - | ⟨part, - | ⟨second, parts⟩⟩
  · exact nil
  · exact singleton (fit part)
  · simp at single

/-- What is put in place of a step on top of the stack is nested again. -/
theorem Fit.step {connection : Connection Callback Session} {task : Task Callback Session}
    (fit : Fit connection (.task task)) :
    Nested (step connection task).1 (step connection task).2 := by
  cases task with
  | hold method =>
      refine .cons ?_ fun frame member => ?_
      · cases method <;> trivial
      · obtain rfl := List.mem_singleton.1 member
        exact ⟨rfl, trivial⟩
  | letGo | countUnregistered => exact .nil
  | borrow | countDatagram | countBytes | countUnidentified | countDeclined | countRefused
  | countCreated => exact .singleton trivial
  | flusher task => exact .of_map (Flusher.length_step_le connection.flusher task) (fit_liftFlusher _)
  | sweep task => exact .of_map (length_sweepStep_le connection.registry task) (fit_liftSweep _)
  | react =>
      simp only [Connection.step]
      split
      · exact .nil
      · refine .cons trivial fun frame member => ?_
        obtain rfl := List.mem_singleton.1 member
        exact ⟨rfl, trivial⟩
  | shut =>
      simp only [Connection.step]
      split
      · exact .nil
      · exact .singleton trivial
  | countClosed closed =>
      refine .cons trivial fun frame member => ?_
      obtain rfl := List.mem_singleton.1 member
      exact ⟨rfl, trivial⟩
  | unregister identifier =>
      simp only [Connection.step]
      split
      · exact .singleton trivial
      · exact .nil
  | identify arrival =>
      simp only [Connection.step]
      split
      · exact .singleton trivial
      · rename_i identifier found
        exact .singleton found
  | route arrival identifier =>
      simp only [Connection.step]
      split
      · rename_i session found
        exact .singleton ⟨fit, Registry.lookup?_eq_some_iff.1 found⟩
      · exact .singleton fit
  | vet session identifier buffer =>
      simp only [Connection.step]
      split
      · exact .singleton trivial
      · rename_i alive
        exact .singleton (show connection.closed = false by simpa using alive)
  | register session identifier buffer =>
      simp only [Connection.step]
      split
      · exact .singleton fit
      · exact .singleton trivial
  | confirm identifier buffer =>
      have alive : connection.closed = false := fit
      simp only [Connection.step, alive, Bool.false_eq_true, if_false]
      exact .singleton trivial
  | withdraw => cases fit

theorem nested_resumed (connection : Connection Callback Session)
    (request : Request Callback Session) (reply : Reply request) :
    Nested connection (resumed request reply) := by
  cases request with
  | flusher request => cases request <;> first | exact .nil | exact .singleton trivial
  | sweep request => cases request <;> first | exact .nil | exact .singleton trivial
  | acquire | assign | discard => exact .singleton trivial
  | release buffer ending => cases ending <;> exact .singleton trivial
  | interest | shutdownOutput | closeEndpoint => exact .nil
  | fill buffer =>
      obtain ⟨buffer, cause | ⟨- | - | -⟩⟩ := reply <;> exact .singleton trivial
  | isOpen =>
      obtain - | - := reply
      · exact .nil
      · exact .singleton trivial
  | create arrival identifier =>
      obtain error | - | session := reply <;> exact .singleton trivial
  | process session arrival identifier =>
      obtain error | consumed := reply <;> exact .singleton trivial

namespace Nested

variable {connection next : Connection Callback Session}
variable {stack nextStack : List (ConnectionFrame Callback Session)}
variable {move : ConnectionMove Callback Session}

theorem of_enterable (nested : Nested connection stack) (enterable : Enterable stack) :
    ∀ frame ∈ stack, lies frame = true ∧ Fit connection frame := by
  intro frame member
  rcases stack with - | ⟨first, rest⟩
  · cases member
  · rcases List.mem_cons.1 member with rfl | deeper
    · refine ⟨?_, nested.top _ rfl⟩
      have under := enterable _ rfl
      cases frame with
      | task task => cases under
      | call request => cases under
      | inside request => rfl
    · exact nested.below frame deeper

/-- A move works on top of what lies below. -/
theorem exchange (nested : Nested connection stack)
    (step : Step (component Callback Session) connection stack move next nextStack) :
    ∃ taken put rest, stack = taken ++ rest ∧ nextStack = put ++ rest ∧
      Exchange (component Callback Session) connection move taken next put ∧
        (∀ frame ∈ taken, Fit connection frame) ∧
          ∀ frame ∈ rest, lies frame = true ∧ Fit connection frame := by
  have top {frame : ConnectionFrame Callback Session}
      {rest : List (ConnectionFrame Callback Session)}
      (nested : Nested connection (frame :: rest)) : ∀ other ∈ [frame], Fit connection other := by
    intro other member
    exact List.mem_singleton.1 member ▸ nested.top frame rfl
  cases step with
  | work task rest free =>
      exact ⟨[_], _, rest, rfl, rfl, .work task free, top nested, nested.below⟩
  | «begin» request rest =>
      exact ⟨[_], _, rest, rfl, rfl, .begin request, top nested, nested.below⟩
  | finish request reply rest =>
      exact ⟨[_], _, rest, rfl, rfl, .finish request reply, top nested, nested.below⟩
  | enter method stack enterable =>
      exact ⟨[], _, stack, rfl, rfl, .enter method, fun _ member => (nomatch member),
        nested.of_enterable enterable⟩

theorem step (step : Step (component Callback Session) connection stack move next nextStack)
    (nested : Nested connection stack) : Nested next nextStack := by
  obtain ⟨taken, put, rest, rfl, rfl, exchange, fit, below⟩ := nested.exchange step
  cases exchange with
  | work task free =>
      refine append (fit (.task task) (List.mem_singleton_self _)).step fun frame member => ?_
      obtain ⟨lies, fit⟩ := below frame member
      exact ⟨lies, fit.of_lies (config_step connection task) lies⟩
  | «begin» request =>
      refine append (singleton ?_) below
      have fit := fit (.call request) (List.mem_singleton_self _)
      cases request <;> first | exact fit | trivial
  | finish request reply => exact append (nested_resumed connection request reply) below
  | enter method =>
      refine append (singleton ?_) below
      cases method <;> trivial

theorem of_run {first : Connection Callback Session}
    {moves : List (ConnectionMove Callback Session)}
    (run : Run (component Callback Session) first [] moves connection stack) :
    Nested connection stack :=
  run.invariant step nil

end Nested

end DatagramMux.Connection
