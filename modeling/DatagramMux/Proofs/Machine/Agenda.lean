import DatagramMux.Proofs.Machine.Projection

/-!
# Surroundings that keep to an agenda

What the surroundings do may be laid down beforehand: an agenda tells with which methods they enter a
component during a call, one after the other, and with what the call then returns, and a plan tells
with which methods they enter it from outside. No choice is left then, so that a thread has only one
run, of which any number of moves can be computed.
-/

namespace DatagramMux.Component

variable {State Task Request Method : Type} {Reply : Request → Type}

/-- What the surroundings do during the calls that are made to them. -/
structure Agenda (Request Method : Type) (Reply : Request → Type) where
  /-- The methods that are entered during a call, in order. -/
  during : Request → List Method
  reply : (request : Request) → Reply request

/-- A thread among surroundings that keep to an agenda. -/
structure Position (State Task Request Method : Type) where
  state : State
  stack : List (Frame Task Request) := []
  /-- The methods that are still to be entered during the calls under way, innermost first. -/
  due : List (List Method) := []
  /-- The methods that are still to be entered from outside. -/
  plan : List Method := []

variable (component : Component State Task Request Method Reply)
variable (agenda : Agenda Request Method Reply)

/-- The only move that is open, if any, and where it leads. -/
def advance : Position State Task Request Method →
    Option (Move Task Request Method Reply × Position State Task Request Method)
  | ⟨state, .task task :: rest, due, plan⟩ =>
      if component.blocked state task then none
      else
        some (.work task,
          ⟨(component.step state task).1, (component.step state task).2 ++ rest, due, plan⟩)
  | ⟨state, .call request :: rest, due, plan⟩ =>
      some (.begin request, ⟨state, .inside request :: rest, agenda.during request :: due, plan⟩)
  | ⟨state, .inside request :: rest, (method :: methods) :: due, plan⟩ =>
      some (.enter method,
        ⟨state, component.body method ++ .inside request :: rest, methods :: due, plan⟩)
  | ⟨state, .inside request :: rest, [] :: due, plan⟩ =>
      some (.finish request (agenda.reply request),
        ⟨state, component.resume request (agenda.reply request) ++ rest, due, plan⟩)
  | ⟨state, [], due, method :: plan⟩ =>
      some (.enter method, ⟨state, component.body method, due, plan⟩)
  | _ => none

/-- So many moves, or as many of them as are open, and where they lead. -/
def follow : Nat → Position State Task Request Method →
    List (Move Task Request Method Reply) × Position State Task Request Method
  | 0, position => ([], position)
  | count + 1, position =>
      match advance component agenda position with
      | none => ([], position)
      | some (move, next) => (move :: (follow count next).1, (follow count next).2)

/-- Some moves lead from one position to another. -/
def Leads (first : Position State Task Request Method)
    (moves : List (Move Task Request Method Reply)) (last : Position State Task Request Method) :
    Prop :=
  ∃ count, follow component agenda count first = (moves, last)

variable {component agenda}
variable {first middle last : Position State Task Request Method}
variable {moves further : List (Move Task Request Method Reply)}

theorem step_of_advance {move : Move Task Request Method Reply}
    (advanced : advance component agenda first = some (move, last)) :
    Step component first.state first.stack move last.state last.stack := by
  unfold advance at advanced
  split at advanced
  · split at advanced
    · cases advanced
    · cases advanced
      exact .work _ _ _ (by simp_all)
  · cases advanced
    exact .begin _ _ _
  · cases advanced
    exact .enter _ _ _ fun frame top => Option.some.inj top ▸ rfl
  · cases advanced
    exact .finish _ _ _ _
  · cases advanced
    rw [← List.append_nil (component.body _)]
    exact .enter _ _ [] fun _ top => nomatch top
  · cases advanced

theorem follow_succ {move : Move Task Request Method Reply}
    (advanced : advance component agenda first = some (move, middle)) (count : Nat) :
    follow component agenda (count + 1) first =
      (move :: (follow component agenda count middle).1, (follow component agenda count middle).2) := by
  rw [follow, advanced]

theorem follow_of_stuck (stuck : advance component agenda first = none) (count : Nat) :
    follow component agenda count first = ([], first) := by
  cases count with
  | zero => rfl
  | succ count => rw [follow, stuck]

theorem follow_add (count others : Nat) (first : Position State Task Request Method) :
    follow component agenda (count + others) first =
      ((follow component agenda count first).1 ++
          (follow component agenda others (follow component agenda count first).2).1,
        (follow component agenda others (follow component agenda count first).2).2) := by
  induction count generalizing first with
  | zero => rw [Nat.zero_add, follow, List.nil_append]
  | succ count ih =>
      rw [Nat.succ_add]
      cases advanced : advance component agenda first with
      | none => rw [follow_of_stuck advanced, follow_of_stuck advanced, follow_of_stuck advanced,
          List.nil_append]
      | some step =>
          obtain ⟨move, middle⟩ := step
          rw [follow_succ advanced, follow_succ advanced, ih, List.cons_append]

variable (component agenda) in
/-- The moves of a thread among such surroundings are a run. -/
theorem run_follow (count : Nat) (first : Position State Task Request Method) :
    Run component first.state first.stack (follow component agenda count first).1
      (follow component agenda count first).2.state
      (follow component agenda count first).2.stack := by
  induction count generalizing first with
  | zero => exact .refl _ _
  | succ count ih =>
      cases advanced : advance component agenda first with
      | none =>
          rw [follow_of_stuck advanced]
          exact .refl _ _
      | some step =>
          obtain ⟨move, middle⟩ := step
          rw [follow_succ advanced]
          exact (step_of_advance advanced).run.append (ih middle)

namespace Leads

theorem refl (first : Position State Task Request Method) : Leads component agenda first [] first :=
  ⟨0, rfl⟩

theorem trans (leads : Leads component agenda first moves middle)
    (onward : Leads component agenda middle further last) :
    Leads component agenda first (moves ++ further) last := by
  obtain ⟨count, reached⟩ := leads
  obtain ⟨others, reachedThen⟩ := onward
  refine ⟨count + others, ?_⟩
  rw [follow_add, reached, reachedThen]

end Leads

/-! ## The plan -/

/-- The plan is worked off from its beginning, a method each time nothing else is left to do. -/
theorem plan_of_advance {move : Move Task Request Method Reply}
    (advanced : advance component agenda first = some (move, last)) :
    last.plan = first.plan ∨
      first.stack = [] ∧ ∃ method, first.plan = method :: last.plan := by
  unfold advance at advanced
  split at advanced
  · split at advanced
    · cases advanced
    · cases advanced
      exact .inl rfl
  · cases advanced
    exact .inl rfl
  · cases advanced
    exact .inl rfl
  · cases advanced
    exact .inl rfl
  · cases advanced
    exact .inr ⟨rfl, _, rfl⟩
  · cases advanced

variable (component agenda) in
theorem plan_follow (count : Nat) (first : Position State Task Request Method) :
    ∃ done, first.plan = done ++ (follow component agenda count first).2.plan := by
  induction count generalizing first with
  | zero => exact ⟨[], rfl⟩
  | succ count ih =>
      cases advanced : advance component agenda first with
      | none =>
          rw [follow_of_stuck advanced]
          exact ⟨[], rfl⟩
      | some step =>
          obtain ⟨move, middle⟩ := step
          rw [follow_succ advanced]
          obtain ⟨done, split⟩ := ih middle
          rcases plan_of_advance advanced with same | ⟨-, method, next⟩
          · exact ⟨done, same ▸ split⟩
          · exact ⟨method :: done, by rw [next, split, List.cons_append]⟩

variable (component agenda) in
theorem advance_of_idle (idle : first.stack = []) :
    first.plan = [] ∧ advance component agenda first = none ∨
      ∃ method plan, first.plan = method :: plan ∧ advance component agenda first =
        some (.enter method, ⟨first.state, component.body method, first.due, plan⟩) := by
  obtain ⟨state, stack, due, plan⟩ := first
  obtain rfl : stack = [] := idle
  cases plan with
  | nil => exact .inl ⟨rfl, by unfold advance; rfl⟩
  | cons method plan => exact .inr ⟨method, plan, rfl, by unfold advance; rfl⟩

variable (component agenda) in
/-- When the plan is finished, nothing more happens. -/
theorem follow_of_finished (idle : first.stack = []) (finished : first.plan = []) (count : Nat) :
    follow component agenda count first = ([], first) := by
  rcases advance_of_idle component agenda idle with ⟨-, stuck⟩ | ⟨method, plan, planned, -⟩
  · exact follow_of_stuck stuck count
  · rw [finished] at planned
    cases planned

/-- From outside a component is left in the same position as long as no method is entered. -/
theorem follow_of_idle (idle : first.stack = []) {count : Nat}
    (same : (follow component agenda count first).2.plan = first.plan) :
    follow component agenda count first = ([], first) := by
  cases count with
  | zero => rfl
  | succ count =>
      rcases advance_of_idle component agenda idle with
        ⟨-, stuck⟩ | ⟨method, plan, planned, advanced⟩
      · exact follow_of_stuck stuck (count + 1)
      · rw [follow_succ advanced] at same
        obtain ⟨done, split⟩ := plan_follow component agenda count
          ⟨first.state, component.body method, first.due, plan⟩
        have lengths := congrArg List.length split
        rw [same, planned] at lengths
        simp only [List.length_append, List.length_cons] at lengths
        omega

/-- When nothing else is left to do, what remains of the plan tells everything. -/
theorem follow_unique {count others : Nat}
    (idle : (follow component agenda count first).2.stack = [])
    (idleThen : (follow component agenda others first).2.stack = [])
    (same : (follow component agenda count first).2.plan =
      (follow component agenda others first).2.plan) :
    follow component agenda count first = follow component agenda others first := by
  have onward {count others : Nat} (ordered : count ≤ others)
      (idle : (follow component agenda count first).2.stack = [])
      (same : (follow component agenda count first).2.plan =
        (follow component agenda others first).2.plan) :
      follow component agenda count first = follow component agenda others first := by
    obtain ⟨more, rfl⟩ := Nat.exists_eq_add_of_le ordered
    rw [follow_add] at same ⊢
    rw [follow_of_idle idle same.symm, List.append_nil]
  rcases Nat.le_total count others with ordered | ordered
  · exact onward ordered idle same
  · exact (onward ordered idleThen same.symm).symm

end DatagramMux.Component
