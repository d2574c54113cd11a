/-!
# Components and their frames

A component is a piece of concurrent code described step by step. Each of its methods becomes a list
of frames, the first of which is on top of a thread's stack. A frame is a task, which is carried out
in one atomic step on the component's state; a call that is about to be made to the surroundings; or
a call that is under way. While a call is under way the surroundings may use the component again,
from the same thread or from others, so a component never sees a call as a single step.
-/

namespace DatagramMux

/-- One entry of a thread's stack. -/
inductive Frame (Task Request : Type) where
  /-- One atomic step that is still to be taken. -/
  | task (task : Task)
  /-- A call to the surroundings that is about to be made. -/
  | call (request : Request)
  /-- A call to the surroundings that has been made and has not returned. -/
  | inside (request : Request)
  deriving DecidableEq, Repr

namespace Frame

/-- Whether a frame is a call that is under way. -/
def isInside {Task Request : Type} : Frame Task Request → Bool
  | .inside _ => true
  | _ => false

end Frame

/--
A component: what its methods do, what a task does to its state, and how it goes on when a call
returns. A task may be blocked in some states; it is then not carried out.
-/
structure Component (State Task Request Method : Type) (Reply : Request → Type) where
  /-- The frames that a call of a method puts on the stack. -/
  body : Method → List (Frame Task Request)
  /-- The effect of a task, and the frames that take its place. -/
  step : State → Task → State × List (Frame Task Request)
  /-- The frames that take the place of a call when it returns. -/
  resume : (request : Request) → Reply request → List (Frame Task Request)
  blocked : State → Task → Bool := fun _ _ => false

end DatagramMux
