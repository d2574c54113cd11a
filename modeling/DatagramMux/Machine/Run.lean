import DatagramMux.Machine.Component

/-!
# Runs of a component

A thread moves in four ways. It carries out a task, begins a call to the surroundings, sees such a
call return with a reply, or is entered by the surroundings with a method; the last only when it is
idle or in the middle of a call. A run is a sequence of moves, either of one thread or of any number
of threads that share one state and move in any order.
-/

namespace DatagramMux

variable {State Task Request Method : Type} {Reply : Request → Type}

/-- What a thread does in one move. -/
inductive Move (Task Request Method : Type) (Reply : Request → Type) where
  | work (task : Task)
  | begin (request : Request)
  | finish (request : Request) (reply : Reply request)
  | enter (method : Method)

/-- Whether the surroundings may enter a thread with this stack. -/
def Enterable (stack : List (Frame Task Request)) : Prop :=
  ∀ frame ∈ stack.head?, frame.isInside = true

namespace Component

/-- One move of one thread. -/
inductive Step (component : Component State Task Request Method Reply) :
    State → List (Frame Task Request) → Move Task Request Method Reply →
      State → List (Frame Task Request) → Prop where
  | work (state : State) (task : Task) (rest : List (Frame Task Request)) :
      component.blocked state task = false →
        Step component state (.task task :: rest) (.work task)
          (component.step state task).1 ((component.step state task).2 ++ rest)
  | begin (state : State) (request : Request) (rest : List (Frame Task Request)) :
      Step component state (.call request :: rest) (.begin request) state (.inside request :: rest)
  | finish (state : State) (request : Request) (reply : Reply request)
      (rest : List (Frame Task Request)) :
      Step component state (.inside request :: rest) (.finish request reply)
        state (component.resume request reply ++ rest)
  | enter (state : State) (method : Method) (stack : List (Frame Task Request)) :
      Enterable stack →
        Step component state stack (.enter method) state (component.body method ++ stack)

/-- A run of one thread, with its moves in order. -/
inductive Run (component : Component State Task Request Method Reply) :
    State → List (Frame Task Request) → List (Move Task Request Method Reply) →
      State → List (Frame Task Request) → Prop where
  | refl (state : State) (stack : List (Frame Task Request)) :
      Run component state stack [] state stack
  | tail {first middle last : State} {firstStack middleStack lastStack : List (Frame Task Request)}
      {moves : List (Move Task Request Method Reply)} {move : Move Task Request Method Reply} :
      Run component first firstStack moves middle middleStack →
        Step component middle middleStack move last lastStack →
          Run component first firstStack (moves ++ [move]) last lastStack

/-- What holds at first and is kept by every move holds in the end. -/
theorem Run.invariant {component : Component State Task Request Method Reply}
    {holds : State → List (Frame Task Request) → Prop}
    (kept : ∀ {state stack move next nextStack},
      Step component state stack move next nextStack → holds state stack → holds next nextStack)
    {first last : State} {firstStack lastStack : List (Frame Task Request)}
    {moves : List (Move Task Request Method Reply)}
    (run : Run component first firstStack moves last lastStack) (start : holds first firstStack) :
    holds last lastStack := by
  induction run with
  | refl => exact start
  | tail _ step ih => exact kept step (ih start)

/-- A state shared by several threads, each with a stack of its own. -/
structure Threads (State Task Request : Type) where
  state : State
  /-- The stack of each thread. -/
  frames : List (List (Frame Task Request))

/-- One move of one of several threads. -/
inductive ThreadStep (component : Component State Task Request Method Reply) :
    Threads State Task Request → Nat → Move Task Request Method Reply →
      Threads State Task Request → Prop where
  | move (threads : Threads State Task Request) (thread : Nat)
      (move : Move Task Request Method Reply) (stack next : List (Frame Task Request)) (state : State) :
      threads.frames[thread]? = some stack →
        Step component threads.state stack move state next →
          ThreadStep component threads thread move ⟨state, threads.frames.set thread next⟩

/-- A run of several threads, with the moves and the threads that made them in order. -/
inductive ThreadRun (component : Component State Task Request Method Reply) :
    Threads State Task Request → List (Nat × Move Task Request Method Reply) →
      Threads State Task Request → Prop where
  | refl (threads : Threads State Task Request) : ThreadRun component threads [] threads
  | tail {first middle last : Threads State Task Request}
      {moves : List (Nat × Move Task Request Method Reply)} {thread : Nat}
      {move : Move Task Request Method Reply} :
      ThreadRun component first moves middle →
        ThreadStep component middle thread move last →
          ThreadRun component first (moves ++ [(thread, move)]) last

/-- No thread is in the middle of anything. -/
def Threads.Quiet (threads : Threads State Task Request) : Prop :=
  ∀ stack ∈ threads.frames, stack = []

end Component

end DatagramMux
