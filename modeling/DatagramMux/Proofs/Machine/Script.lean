import DatagramMux.Machine.Run

/-!
# Runs that follow a script

A thread has little freedom: the frame on top of its stack tells what it does next, unless a call is
under way. A script makes the choices that are left, and following it gives a run. A choice that is
not open is passed over, so every script gives one.
-/

namespace DatagramMux.Component

variable {State Task Request Method : Type} {Reply : Request → Type}

/-- What a script may choose. -/
inductive Choice (Request Method : Type) (Reply : Request → Type) where
  /-- Carry out the task, or begin the call, that is on top of the stack. -/
  | proceed
  | finish (reply : (request : Request) → Reply request)
  | enter (method : Method)

variable (component : Component State Task Request Method Reply)

/-- The move that is chosen, if it is open, and where it leads. -/
def choose (state : State) :
    List (Frame Task Request) → Choice Request Method Reply →
      Option (Move Task Request Method Reply × State × List (Frame Task Request))
  | .task task :: rest, .proceed =>
      if component.blocked state task then none
      else some (.work task, (component.step state task).1, (component.step state task).2 ++ rest)
  | .call request :: rest, .proceed => some (.begin request, state, .inside request :: rest)
  | .inside request :: rest, .finish reply =>
      some (.finish request (reply request), state,
        component.resume request (reply request) ++ rest)
  | .inside request :: rest, .enter method =>
      some (.enter method, state, component.body method ++ .inside request :: rest)
  | [], .enter method => some (.enter method, state, component.body method)
  | _, _ => none

variable {component}

theorem step_of_choose {state next : State} {stack nextStack : List (Frame Task Request)}
    {choice : Choice Request Method Reply} {move : Move Task Request Method Reply}
    (chosen : choose component state stack choice = some (move, next, nextStack)) :
    Step component state stack move next nextStack := by
  unfold choose at chosen
  split at chosen
  · split at chosen
    · cases chosen
    · cases chosen
      exact .work _ _ _ (by simp_all)
  · cases chosen
    exact .begin _ _ _
  · cases chosen
    exact .finish _ _ _ _
  · cases chosen
    exact .enter _ _ _ fun frame top => Option.some.inj top ▸ rfl
  · cases chosen
    rw [← List.append_nil (component.body _)]
    exact .enter _ _ [] fun _ top => nomatch top
  · cases chosen

/-! ## One thread -/

/-- The moves of a thread so far, and where they have led. -/
structure Trace (State Task Request Method : Type) (Reply : Request → Type) where
  moves : List (Move Task Request Method Reply) := []
  state : State
  stack : List (Frame Task Request) := []

namespace Trace

variable (component)

def extend (trace : Trace State Task Request Method Reply) (choice : Choice Request Method Reply) :
    Trace State Task Request Method Reply :=
  match choose component trace.state trace.stack choice with
  | some (move, state, stack) => ⟨trace.moves ++ [move], state, stack⟩
  | none => trace

/-- The trace of a thread that follows a script from some stack on. -/
def followFrom (state : State) (stack : List (Frame Task Request))
    (script : List (Choice Request Method Reply)) : Trace State Task Request Method Reply :=
  script.foldl (extend component) { state := state, stack := stack }

theorem run_followFrom (state : State) (stack : List (Frame Task Request))
    (script : List (Choice Request Method Reply)) :
    Run component state stack (followFrom component state stack script).moves
      (followFrom component state stack script).state
      (followFrom component state stack script).stack := by
  refine List.foldlRecOn (motive := fun trace : Trace State Task Request Method Reply =>
    Run component state stack trace.moves trace.state trace.stack) script (extend component)
    (Run.refl state stack) ?_
  intro trace run choice _
  unfold extend
  split
  · rename_i move next nextStack chosen
    exact .tail run (step_of_choose chosen)
  · exact run

/-- The trace of a thread that follows a script, beginning with an empty stack. -/
def follow (state : State) (script : List (Choice Request Method Reply)) :
    Trace State Task Request Method Reply :=
  script.foldl (extend component) { state := state }

theorem run_follow (state : State) (script : List (Choice Request Method Reply)) :
    Run component state [] (follow component state script).moves
      (follow component state script).state (follow component state script).stack :=
  run_followFrom component state [] script

end Trace

/-! ## Several threads -/

/-- The moves of several threads so far, and where they have led. -/
structure ThreadTrace (State Task Request Method : Type) (Reply : Request → Type) where
  moves : List (Nat × Move Task Request Method Reply) := []
  threads : Threads State Task Request

namespace ThreadTrace

variable (component)

def extend (trace : ThreadTrace State Task Request Method Reply)
    (turn : Nat × Choice Request Method Reply) : ThreadTrace State Task Request Method Reply :=
  match trace.threads.frames[turn.1]?.bind
      fun stack => choose component trace.threads.state stack turn.2 with
  | some (move, state, stack) =>
      { moves := trace.moves ++ [(turn.1, move)]
        threads := ⟨state, trace.threads.frames.set turn.1 stack⟩ }
  | none => trace

/-- The trace of threads that follow a script. -/
def follow (threads : Threads State Task Request)
    (script : List (Nat × Choice Request Method Reply)) :
    ThreadTrace State Task Request Method Reply :=
  script.foldl (extend component) { threads := threads }

theorem run_follow (threads : Threads State Task Request)
    (script : List (Nat × Choice Request Method Reply)) :
    ThreadRun component threads (follow component threads script).moves
      (follow component threads script).threads := by
  refine List.foldlRecOn (motive := fun trace : ThreadTrace State Task Request Method Reply =>
    ThreadRun component threads trace.moves trace.threads) script (extend component)
    (ThreadRun.refl threads) ?_
  intro trace run turn _
  unfold extend
  split
  · rename_i move next nextStack chosen
    obtain ⟨stack, found, chosen⟩ := Option.bind_eq_some_iff.1 chosen
    exact .tail run (.move _ _ _ stack _ _ found (step_of_choose chosen))
  · exact run

end ThreadTrace

end DatagramMux.Component
