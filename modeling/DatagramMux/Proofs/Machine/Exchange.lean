import DatagramMux.Machine.Run
import Mathlib.Algebra.BigOperators.Group.Multiset.Basic
import Mathlib.Algebra.GroupWithZero.Nat
import Mathlib.Algebra.Order.BigOperators.Group.Multiset

/-!
# Frames regardless of their stacks

Much of what is true of a component does not depend on which thread a frame belongs to, nor on what
lies above it. For such properties all frames of all threads are thrown together. A move takes at
most one frame out of this collection and puts others in, and a property that every such exchange
keeps holds after every run, of one thread as well as of many.
-/

namespace DatagramMux.Component

variable {State Task Request Method : Type} {Reply : Request → Type}
variable {component : Component State Task Request Method Reply}

/-- A move with the frames that it takes away and those that it puts in their place. -/
inductive Exchange (component : Component State Task Request Method Reply) (state : State) :
    Move Task Request Method Reply → List (Frame Task Request) →
      State → List (Frame Task Request) → Prop where
  | work (task : Task) :
      component.blocked state task = false →
        Exchange component state (.work task) [.task task]
          (component.step state task).1 (component.step state task).2
  | begin (request : Request) :
      Exchange component state (.begin request) [.call request] state [.inside request]
  | finish (request : Request) (reply : Reply request) :
      Exchange component state (.finish request reply) [.inside request]
        state (component.resume request reply)
  | enter (method : Method) :
      Exchange component state (.enter method) [] state (component.body method)

/-- A move works on the top of a stack and leaves the rest alone. -/
theorem Step.exchange {state next : State} {stack nextStack : List (Frame Task Request)}
    {move : Move Task Request Method Reply}
    (step : Step component state stack move next nextStack) :
    ∃ taken put rest, stack = taken ++ rest ∧ nextStack = put ++ rest ∧
      Exchange component state move taken next put := by
  cases step with
  | work task rest free => exact ⟨_, _, rest, rfl, rfl, .work task free⟩
  | begin request rest => exact ⟨_, _, rest, rfl, rfl, .begin request⟩
  | finish request reply rest => exact ⟨_, _, rest, rfl, rfl, .finish request reply⟩
  | enter method stack enterable => exact ⟨[], _, stack, rfl, rfl, .enter method⟩

theorem Step.eq_of_task {state next : State} {task : Task} {move : Move Task Request Method Reply}
    {below nextStack : List (Frame Task Request)}
    (step : Step component state (.task task :: below) move next nextStack)
    (own : ∀ method, move ≠ .enter method) :
    next = (component.step state task).1 ∧ nextStack = (component.step state task).2 ++ below := by
  cases step with
  | work => exact ⟨rfl, rfl⟩
  | enter => exact absurd rfl (own _)

/-- A move puts its frames on top of what may lie below others, if calls under way may. -/
theorem Step.exchange_of_tail {lies : Frame Task Request → Bool}
    (calls : ∀ frame : Frame Task Request, frame.isInside = true → lies frame = true)
    {state next : State} {stack nextStack : List (Frame Task Request)}
    {move : Move Task Request Method Reply} (below : ∀ frame ∈ stack.tail, lies frame = true)
    (step : Step component state stack move next nextStack) :
    ∃ taken put rest, stack = taken ++ rest ∧ nextStack = put ++ rest ∧
      Exchange component state move taken next put ∧ ∀ frame ∈ rest, lies frame = true := by
  cases step with
  | work task rest free => exact ⟨_, _, rest, rfl, rfl, .work task free, below⟩
  | begin request rest => exact ⟨_, _, rest, rfl, rfl, .begin request, below⟩
  | finish request reply rest => exact ⟨_, _, rest, rfl, rfl, .finish request reply, below⟩
  | enter method stack enterable =>
      refine ⟨[], _, stack, rfl, rfl, .enter method, fun frame member => ?_⟩
      rcases stack with - | ⟨first, rest⟩
      · cases member
      · rcases List.mem_cons.1 member with rfl | deeper
        · exact calls _ (enterable _ rfl)
        · exact below frame deeper

def Threads.gathered (threads : Threads State Task Request) : Multiset (Frame Task Request) :=
  ↑threads.frames.flatten

theorem gathered_set {frames : List (List (Frame Task Request))} {thread : Nat}
    {stack : List (Frame Task Request)} (found : frames[thread]? = some stack) :
    ∃ others : Multiset (Frame Task Request), (↑frames.flatten = ↑stack + others) ∧
      ∀ next : List (Frame Task Request), ↑(frames.set thread next).flatten = ↑next + others := by
  induction frames generalizing thread with
  | nil => simp at found
  | cons first rest ih =>
      cases thread with
      | zero =>
          obtain rfl : first = stack := by simpa using found
          refine ⟨↑rest.flatten, ?_, fun next => ?_⟩
          · rw [List.flatten_cons, ← Multiset.coe_add]
          · rw [List.set_cons_zero, List.flatten_cons, ← Multiset.coe_add]
      | succ thread =>
          obtain ⟨others, before, after⟩ := ih (by simpa using found)
          refine ⟨↑first + others, ?_, fun next => ?_⟩
          · rw [List.flatten_cons, ← Multiset.coe_add, before, add_left_comm]
          · rw [List.set_cons_succ, List.flatten_cons, ← Multiset.coe_add, after, add_left_comm]

theorem gathered_of_quiet {threads : Threads State Task Request} (quiet : threads.Quiet) :
    threads.gathered = 0 := by
  have empty : threads.frames.flatten = [] := List.flatten_eq_nil_iff.2 quiet
  rw [Threads.gathered, empty, Multiset.coe_nil]

/-! ## What every exchange keeps -/

/-- What holds at first and is kept by every move holds in the end, with regard to the moves made. -/
theorem Run.invariant_of_step
    (holds : List (Move Task Request Method Reply) → State → List (Frame Task Request) → Prop)
    (kept : ∀ {moves state stack move next nextStack},
      Step component state stack move next nextStack →
        holds moves state stack → holds (moves ++ [move]) next nextStack)
    {first last : State} {firstStack lastStack : List (Frame Task Request)}
    {moves : List (Move Task Request Method Reply)}
    (run : Run component first firstStack moves last lastStack)
    (start : holds [] first firstStack) : holds moves last lastStack := by
  induction run with
  | refl => exact start
  | tail _ step ih => exact kept step (ih start)

/-- What holds at first and is kept by every move that follows a run holds in the end. -/
theorem Run.invariant_of_reached {first last : State} {firstStack lastStack : List (Frame Task Request)}
    (holds : List (Move Task Request Method Reply) → State → List (Frame Task Request) → Prop)
    (kept : ∀ {moves state stack move next nextStack},
      Run component first firstStack moves state stack →
        Step component state stack move next nextStack →
          holds moves state stack → holds (moves ++ [move]) next nextStack)
    {moves : List (Move Task Request Method Reply)}
    (run : Run component first firstStack moves last lastStack)
    (start : holds [] first firstStack) : holds moves last lastStack := by
  induction run with
  | refl => exact start
  | tail run step ih => exact kept run step (ih kept start)

/--
What every exchange keeps, whatever other frames there are, holds after every run of one thread.
The property may speak of the moves made so far.
-/
theorem Run.invariant_of_exchange
    (holds : List (Move Task Request Method Reply) → State → Multiset (Frame Task Request) → Prop)
    (kept : ∀ {moves state move taken next put rest},
      Exchange component state move taken next put →
        holds moves state (↑taken + rest) → holds (moves ++ [move]) next (↑put + rest))
    {first last : State} {firstStack lastStack : List (Frame Task Request)}
    {moves : List (Move Task Request Method Reply)}
    (run : Run component first firstStack moves last lastStack)
    (start : holds [] first ↑firstStack) : holds moves last ↑lastStack := by
  induction run with
  | refl => exact start
  | tail _ step ih =>
      obtain ⟨taken, put, rest, rfl, rfl, exchange⟩ := step.exchange
      have before := ih start
      rw [← Multiset.coe_add] at before ⊢
      exact kept exchange before

/-- What every exchange keeps holds after every run of several threads. -/
theorem ThreadRun.invariant_of_exchange
    (holds : List (Move Task Request Method Reply) → State → Multiset (Frame Task Request) → Prop)
    (kept : ∀ {moves state move taken next put rest},
      Exchange component state move taken next put →
        holds moves state (↑taken + rest) → holds (moves ++ [move]) next (↑put + rest))
    {first last : Threads State Task Request}
    {moves : List (Nat × Move Task Request Method Reply)}
    (run : ThreadRun component first moves last)
    (start : holds [] first.state first.gathered) :
    holds (moves.map Prod.snd) last.state last.gathered := by
  induction run with
  | refl => exact start
  | tail _ threadStep ih =>
      cases threadStep with
      | move stack next state found step =>
          obtain ⟨others, gathered, afterwards⟩ := gathered_set found
          obtain ⟨taken, put, rest, rfl, rfl, exchange⟩ := step.exchange
          have before := ih
          rw [Threads.gathered, gathered, ← Multiset.coe_add, add_assoc] at before
          rw [List.map_append, List.map_singleton, Threads.gathered, afterwards,
            ← Multiset.coe_add, add_assoc]
          exact kept exchange before

/-! ## Totals over all frames -/

section Total

variable {Value : Type} [AddCommMonoid Value]

/-- The sum over a collection of frames of what each of them counts for. -/
def total (weight : Frame Task Request → Value) (frames : Multiset (Frame Task Request)) : Value :=
  (frames.map weight).sum

@[simp]
theorem total_zero (weight : Frame Task Request → Value) : total weight 0 = 0 := rfl

@[simp]
theorem total_add (weight : Frame Task Request → Value)
    (first second : Multiset (Frame Task Request)) :
    total weight (first + second) = total weight first + total weight second := by
  simp only [total, Multiset.map_add, Multiset.sum_add]

@[simp]
theorem total_coe (weight : Frame Task Request → Value) (frames : List (Frame Task Request)) :
    total weight ↑frames = (frames.map weight).sum := by
  simp only [total, Multiset.map_coe, Multiset.sum_coe]

@[simp]
theorem total_cons (weight : Frame Task Request → Value) (frame : Frame Task Request)
    (frames : Multiset (Frame Task Request)) :
    total weight (frame ::ₘ frames) = weight frame + total weight frames := by
  simp only [total, Multiset.map_cons, Multiset.sum_cons]

@[simp]
theorem total_singleton (weight : Frame Task Request → Value) (frame : Frame Task Request) :
    total weight {frame} = weight frame := by
  simp only [total, Multiset.map_singleton, Multiset.sum_singleton]

end Total

end DatagramMux.Component
