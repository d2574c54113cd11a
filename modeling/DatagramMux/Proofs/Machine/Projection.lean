import DatagramMux.Machine.Run

/-!
# Components made of components

A component may use another one as a part of itself: a part of its state is the other's state, and
some of its frames are the other's frames. Whatever the whole does, the part then goes through a run
of its own, in which each move of the whole is none, one or several moves.
-/

namespace DatagramMux.Component

variable {State Task Request Method : Type} {Reply : Request → Type}
variable {PartState PartTask PartRequest PartMethod : Type} {PartReply : PartRequest → Type}

theorem filterMap_singleton {Value Image : Type} (image : Value → Option Image) (value : Value) :
    [value].filterMap image = (image value).toList := by
  rw [List.filterMap_cons]
  cases image value <;> rfl

theorem filterMap_map_of_shown {Part Whole : Type} {image : Whole → Option Part} {lift : Part → Whole}
    (shown : ∀ part, image (lift part) = some part) (parts : List Part) :
    (parts.map lift).filterMap image = parts := by
  induction parts with
  | nil => rfl
  | cons part parts ih => rw [List.map_cons, List.filterMap_cons_some (shown part), ih]

theorem Run.append {component : Component State Task Request Method Reply}
    {first middle last : State} {firstStack middleStack lastStack : List (Frame Task Request)}
    {moves further : List (Move Task Request Method Reply)}
    (run : Run component first firstStack moves middle middleStack)
    (onward : Run component middle middleStack further last lastStack) :
    Run component first firstStack (moves ++ further) last lastStack := by
  induction onward with
  | refl =>
      rw [List.append_nil]
      exact run
  | tail _ step ih =>
      rw [← List.append_assoc]
      exact .tail (ih run) step

theorem Run.split {component : Component State Task Request Method Reply} {first last : State}
    {firstStack lastStack : List (Frame Task Request)}
    {moves further : List (Move Task Request Method Reply)}
    (run : Run component first firstStack (moves ++ further) last lastStack) :
    ∃ middle middleStack, Run component first firstStack moves middle middleStack ∧
      Run component middle middleStack further last lastStack := by
  generalize whole : moves ++ further = all at run
  induction run generalizing further with
  | refl =>
      obtain ⟨rfl, rfl⟩ := List.append_eq_nil_iff.1 whole
      exact ⟨_, _, .refl _ _, .refl _ _⟩
  | tail before step ih =>
      rcases List.eq_nil_or_concat further with rfl | ⟨further, final, rfl⟩
      · rw [List.append_nil] at whole
        subst whole
        exact ⟨_, _, .tail before step, .refl _ _⟩
      · rw [List.concat_eq_append, ← List.append_assoc] at whole
        obtain ⟨rfl, same⟩ := List.append_inj' whole rfl
        obtain rfl := List.singleton_inj.1 same
        obtain ⟨state, stack, earlier, later⟩ := ih rfl
        rw [List.concat_eq_append]
        exact ⟨state, stack, earlier, .tail later step⟩

/-- One thread is a special case of several. -/
theorem Run.threadRun {component : Component State Task Request Method Reply} {first last : State}
    {firstStack lastStack : List (Frame Task Request)}
    {moves : List (Move Task Request Method Reply)}
    (run : Run component first firstStack moves last lastStack) :
    ThreadRun component ⟨first, [firstStack]⟩ (moves.map fun move => (0, move))
      ⟨last, [lastStack]⟩ := by
  induction run with
  | refl => exact .refl _
  | tail _ step ih =>
      rw [List.map_append, List.map_singleton]
      exact .tail ih (.move _ 0 _ _ _ _ rfl step)

theorem Step.run {component : Component State Task Request Method Reply} {first last : State}
    {firstStack lastStack : List (Frame Task Request)} {move : Move Task Request Method Reply}
    (step : Step component first firstStack move last lastStack) :
    Run component first firstStack [move] last lastStack :=
  .tail (.refl first firstStack) step

section Single

variable (component : Component State Task Request Method Reply) (state : State)
variable {stack : List (Frame Task Request)}

theorem run_work (task : Task) (free : component.blocked state task = false) :
    Run component state (.task task :: stack) [.work task] (component.step state task).1
      ((component.step state task).2 ++ stack) :=
  (Step.work state task stack free).run

theorem run_begin (request : Request) :
    Run component state (.call request :: stack) [.begin request] state
      (.inside request :: stack) :=
  (Step.begin state request stack).run

theorem run_finish (request : Request) (reply : Reply request) :
    Run component state (.inside request :: stack) [.finish request reply] state
      (component.resume request reply ++ stack) :=
  (Step.finish state request reply stack).run

theorem run_enter (method : Method) (enterable : Enterable stack) :
    Run component state stack [.enter method] state (component.body method ++ stack) :=
  (Step.enter state method stack enterable).run

theorem enterable_nil : Enterable ([] : List (Frame Task Request)) := fun _ top => nomatch top

end Single

/--
A run of the whole shows a run of its part, provided that each move does, as long as the stack of
the whole is as it should be.
-/
theorem Run.project {whole : Component State Task Request Method Reply}
    {part : Component PartState PartTask PartRequest PartMethod PartReply}
    (view : State → PartState)
    (shown : Frame Task Request → Option (Frame PartTask PartRequest))
    (seen : Move Task Request Method Reply → List (Move PartTask PartRequest PartMethod PartReply))
    {holds : State → List (Frame Task Request) → Prop}
    (kept : ∀ {state stack move next nextStack},
      Step whole state stack move next nextStack → holds state stack → holds next nextStack)
    (matched : ∀ {state stack move next nextStack},
      Step whole state stack move next nextStack → holds state stack →
        Run part (view state) (stack.filterMap shown) (seen move)
          (view next) (nextStack.filterMap shown))
    {first last : State} {firstStack lastStack : List (Frame Task Request)}
    {moves : List (Move Task Request Method Reply)}
    (run : Run whole first firstStack moves last lastStack) (start : holds first firstStack) :
    Run part (view first) (firstStack.filterMap shown) (moves.flatMap seen)
      (view last) (lastStack.filterMap shown) := by
  induction run with
  | refl => exact .refl _ _
  | tail run step ih =>
      rw [List.flatMap_append, List.flatMap_singleton]
      exact (ih start).append (matched step (run.invariant kept start))

end DatagramMux.Component
