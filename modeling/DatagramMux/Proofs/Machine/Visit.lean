import DatagramMux.Proofs.Machine.Projection

/-!
# Calls of a method and what happens in between

While a method is being carried out, its component may be entered again, as often as calls are under
way. A visit is one call of a method from its beginning on. It tells the method's own frames from the
frames of calls that have come in between, and the moves that it makes itself from all others. What
lies below on the stack has no part in it, so that a visit is the same from inside and from outside.
-/

namespace DatagramMux.Component

variable {State Task Request Method : Type} {Reply : Request → Type}

/--
One call of a method: the moves made since, those of them that it has made itself, where they have
led, its own frames and, above these, the frames of calls that came in between.
-/
inductive Visit (component : Component State Task Request Method Reply) (method : Method)
    (first : State) : List (Move Task Request Method Reply) →
      List (Move Task Request Method Reply) → State → List (Frame Task Request) →
        List (Frame Task Request) → Prop where
  | enter : Visit component method first [] [] first (component.body method) []
  | own {moves mine : List (Move Task Request Method Reply)} {state next : State}
      {stack nextStack : List (Frame Task Request)} {move : Move Task Request Method Reply} :
      Visit component method first moves mine state stack [] →
        Step component state stack move next nextStack → (∀ other, move ≠ .enter other) →
          Visit component method first (moves ++ [move]) (mine ++ [move]) next nextStack []
  | between {moves mine : List (Move Task Request Method Reply)} {state next : State}
      {stack above nextAbove : List (Frame Task Request)} {move : Move Task Request Method Reply} :
      Visit component method first moves mine state stack above → stack ≠ [] →
        Step component state (above ++ stack) move next (nextAbove ++ stack) →
          (above = [] → ∃ other, move = .enter other) →
            Visit component method first (moves ++ [move]) mine next stack nextAbove

variable {component : Component State Task Request Method Reply}

/-- A move works on the upper part of a stack, regardless of what lies below. -/
theorem Step.of_append {state next : State} {upper below nextStack : List (Frame Task Request)}
    {move : Move Task Request Method Reply} (here : upper ≠ [])
    (step : Step component state (upper ++ below) move next nextStack) :
    ∃ nextUpper, nextStack = nextUpper ++ below ∧ Step component state upper move next nextUpper := by
  obtain ⟨frame, upper, rfl⟩ := List.exists_cons_of_ne_nil here
  cases step with
  | work task rest free => exact ⟨_, (List.append_assoc _ _ _).symm, .work _ _ _ free⟩
  | begin request rest => exact ⟨_, rfl, .begin _ _ _⟩
  | finish request reply rest => exact ⟨_, (List.append_assoc _ _ _).symm, .finish _ _ _ _⟩
  | enter method stack enterable =>
      exact ⟨_, (List.append_assoc _ _ _).symm, .enter _ _ _ fun frame top => enterable frame top⟩

namespace Visit

variable {method : Method} {first state : State} {stack above : List (Frame Task Request)}
variable {moves mine : List (Move Task Request Method Reply)}

theorem above_eq_nil (visit : Visit component method first moves mine state stack above)
    (returned : stack = []) : above = [] := by
  cases visit with
  | enter | own => rfl
  | between _ here => exact absurd returned here

/-- A call is under way, or it has returned and something else has happened since. -/
def Covers (component : Component State Task Request Method Reply) (method : Method) (first : State)
    (below : List (Frame Task Request)) (moves : List (Move Task Request Method Reply))
    (last : State) (lastStack : List (Frame Task Request)) : Prop :=
  (∃ mine stack above, Visit component method first moves mine last stack above ∧ stack ≠ [] ∧
      lastStack = above ++ (stack ++ below)) ∨
    ∃ before later mine middle, moves = before ++ later ∧
      Visit component method first before mine middle [] [] ∧
        Run component middle below later last lastStack

theorem covers (visit : Visit component method first moves mine state stack above)
    (below : List (Frame Task Request)) :
    Covers component method first below moves state (above ++ (stack ++ below)) := by
  by_cases returned : stack = []
  · obtain rfl := visit.above_eq_nil returned
    subst returned
    exact .inr ⟨moves, [], mine, state, (List.append_nil moves).symm, visit, .refl _ _⟩
  · exact .inl ⟨mine, stack, above, visit, returned, rfl⟩

/-- Whatever is done before the call returns belongs to it, if only by having come in between. -/
theorem step (visit : Visit component method first moves mine state stack above) {next : State}
    {below nextStack : List (Frame Task Request)} {move : Move Task Request Method Reply}
    (here : stack ≠ []) (step : Step component state (above ++ (stack ++ below)) move next nextStack) :
    Covers component method first below (moves ++ [move]) next nextStack := by
  rw [← List.append_assoc] at step
  obtain ⟨upper, rfl, moved⟩ := step.of_append fun empty => here (List.append_eq_nil_iff.1 empty).2
  by_cases alone : above = []
  · subst alone
    by_cases entered : ∃ other, move = .enter other
    · obtain ⟨other, rfl⟩ := entered
      cases moved with
      | enter method stack enterable =>
          rw [List.append_assoc]
          exact (visit.between here (.enter _ _ _ enterable) fun _ => ⟨other, rfl⟩).covers below
    · exact (visit.own moved fun other entering => entered ⟨other, entering⟩).covers below
  · obtain ⟨nextAbove, rfl, -⟩ := moved.of_append alone
    rw [List.append_assoc]
    exact (visit.between here moved fun empty => absurd empty alone).covers below

/-- Every run that begins with a call is covered by it. -/
theorem covers_of_run {last : State} {below lastStack : List (Frame Task Request)}
    (run : Run component first (component.body method ++ below) moves last lastStack) :
    Covers component method first below moves last lastStack := by
  generalize start : component.body method ++ below = entered at run
  induction run with
  | refl => exact start ▸ enter.covers below
  | tail run step ih =>
      rcases ih start with
        ⟨mine, stack, above, visit, here, rfl⟩ | ⟨before, later, mine, middle, rfl, visit, run⟩
      · exact visit.step here step
      · exact .inr ⟨before, _, mine, middle, List.append_assoc _ _ _, visit, run.tail step⟩

end Visit

end DatagramMux.Component
