import DatagramMux.Machine.Component

/-!
# Crews of threads

Several threads that use one component, each with a list of methods that it enters one after the
other. The threads take turns, in each of which one of them makes a limited number of moves in one
method, so that it is often interrupted by others in the middle of a method. What the component asks
for is met by surroundings that all threads share.
-/

namespace DatagramMux

/-- How a world meets what a component asks for. -/
structure Surroundings (World Request Method : Type) (Reply : Request → Type) where
  /-- What happens when a request is made, and the methods that are entered before it is met. -/
  hear : World → Request → World × List Method
  /-- What is replied to a request when these methods have returned. -/
  reply : World → (request : Request) → World × Reply request

/-- One thread: what it is doing, and what it is still going to do. -/
structure Thread (Task Request Method : Type) where
  stack : List (Frame Task Request) := []
  methods : List Method
  /-- How many of its turns the thread lets pass before it begins. -/
  delay : Nat := 0

/-- Threads that share the state of a component and its surroundings; the first one has its turn. -/
structure Crew (State World Task Request Method : Type) where
  state : State
  world : World
  threads : List (Thread Task Request Method)

namespace Crew

variable {State World Task Request Method : Type} {Reply : Request → Type}

/--
One thread makes at most a given number of moves, until its stack is empty or it has to wait, and
returns with what is left of the stack.
-/
def work (component : Component State Task Request Method Reply)
    (surroundings : Surroundings World Request Method Reply) :
    Nat → State → World → List (Frame Task Request) → State × World × List (Frame Task Request)
  | 0, state, world, stack => (state, world, stack)
  | _ + 1, state, world, [] => (state, world, [])
  | moves + 1, state, world, .task task :: rest =>
      if component.blocked state task then (state, world, .task task :: rest)
      else
        let (state, frames) := component.step state task
        work component surroundings moves state world (frames ++ rest)
  | moves + 1, state, world, .call request :: rest =>
      let (world, entered) := surroundings.hear world request
      work component surroundings moves state world
        (entered.flatMap component.body ++ .inside request :: rest)
  | moves + 1, state, world, .inside request :: rest =>
      let (world, reply) := surroundings.reply world request
      work component surroundings moves state world (component.resume request reply ++ rest)

/-- The number of moves in a turn; it changes from turn to turn, up to a given number. -/
def turnLength (longest turn : Nat) : Nat := 1 + 37 * turn % longest

/--
One turn: the first thread goes on with its method, or enters the next one, and then goes to the end
of the line. A thread without a method leaves.
-/
def takeTurn (component : Component State Task Request Method Reply)
    (surroundings : Surroundings World Request Method Reply) (moves : Nat)
    (crew : Crew State World Task Request Method) : Crew State World Task Request Method :=
  let goOn (stack : List (Frame Task Request)) (methods : List Method)
      (others : List (Thread Task Request Method)) : Crew State World Task Request Method :=
    let (state, world, stack) := work component surroundings moves crew.state crew.world stack
    { state := state, world := world
      threads := others ++ [{ stack := stack, methods := methods }] }
  match crew.threads with
  | [] => crew
  | ⟨stack, methods, delay + 1⟩ :: others =>
      { crew with threads := others ++ [⟨stack, methods, delay⟩] }
  | ⟨[], [], 0⟩ :: others => { crew with threads := others }
  | ⟨[], method :: methods, 0⟩ :: others => goOn (component.body method) methods others
  | ⟨frame :: stack, methods, 0⟩ :: others => goOn (frame :: stack) methods others

/-- Turns, from a given one on, until all threads are done, but at most a given number of them. -/
def takeTurns (component : Component State Task Request Method Reply)
    (surroundings : Surroundings World Request Method Reply) (longest : Nat) :
    Nat → Nat → Crew State World Task Request Method → Crew State World Task Request Method
  | 0, _, crew => crew
  | bound + 1, turn, crew =>
      if crew.threads.isEmpty then crew
      else
        takeTurns component surroundings longest bound (turn + 1)
          (crew.takeTurn component surroundings (turnLength longest turn))

end Crew

end DatagramMux
