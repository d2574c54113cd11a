import DatagramMux.Proofs.Machine.Projection
import Mathlib.Logic.IsEmpty.Basic

/-!
# Runs with events

The state of a component may change without its doing, for instance because something arrives. A run
with events is a run of one thread between whose moves, at any point, events take place. They change
the state and leave the stack alone.
-/

namespace DatagramMux.Component

variable {State Task Request Method Event : Type} {Reply : Request → Type}

/-- A run of one thread with its moves and the events in between, each in order. -/
inductive EventRun (component : Component State Task Request Method Reply)
    (undergo : State → Event → State) :
    State → List (Frame Task Request) → List (Move Task Request Method Reply) → List Event →
      State → List (Frame Task Request) → Prop where
  | refl (state : State) (stack : List (Frame Task Request)) :
      EventRun component undergo state stack [] [] state stack
  | move {first middle last : State} {firstStack middleStack lastStack : List (Frame Task Request)}
      {moves : List (Move Task Request Method Reply)} {events : List Event}
      {move : Move Task Request Method Reply} :
      EventRun component undergo first firstStack moves events middle middleStack →
        Step component middle middleStack move last lastStack →
          EventRun component undergo first firstStack (moves ++ [move]) events last lastStack
  | event {first middle : State} {firstStack stack : List (Frame Task Request)}
      {moves : List (Move Task Request Method Reply)} {events : List Event} (event : Event) :
      EventRun component undergo first firstStack moves events middle stack →
        EventRun component undergo first firstStack moves (events ++ [event])
          (undergo middle event) stack

namespace EventRun

variable {component : Component State Task Request Method Reply} {undergo : State → Event → State}
variable {first middle last : State} {firstStack middleStack lastStack : List (Frame Task Request)}
variable {moves further : List (Move Task Request Method Reply)} {events : List Event}

/-- What every move and every event keeps holds in the end, with regard to both. -/
theorem invariant
    (holds : List (Move Task Request Method Reply) → List Event → State →
      List (Frame Task Request) → Prop)
    (kept : ∀ {moves events state stack move next nextStack},
      Step component state stack move next nextStack →
        holds moves events state stack → holds (moves ++ [move]) events next nextStack)
    (undergone : ∀ {moves events state stack} event,
      holds moves events state stack → holds moves (events ++ [event]) (undergo state event) stack)
    (run : EventRun component undergo first firstStack moves events last lastStack)
    (start : holds [] [] first firstStack) : holds moves events last lastStack := by
  induction run with
  | refl => exact start
  | move _ step ih => exact kept step (ih start)
  | event event _ ih => exact undergone event (ih start)

theorem append (run : EventRun component undergo first firstStack moves events middle middleStack)
    (onward : Run component middle middleStack further last lastStack) :
    EventRun component undergo first firstStack (moves ++ further) events last lastStack := by
  induction onward with
  | refl =>
      rw [List.append_nil]
      exact run
  | tail _ step ih =>
      rw [← List.append_assoc]
      exact .move (ih run) step

theorem happen (run : EventRun component undergo first firstStack moves events middle middleStack)
    (others : List Event) :
    EventRun component undergo first firstStack moves (events ++ others)
      (others.foldl undergo middle) middleStack := by
  induction others generalizing middle events with
  | nil =>
      rw [List.append_nil]
      exact run
  | cons event others ih =>
      rw [List.append_cons]
      exact ih (run.event event)

theorem trans {others : List Event}
    (run : EventRun component undergo first firstStack moves events middle middleStack)
    (onward : EventRun component undergo middle middleStack further others last lastStack) :
    EventRun component undergo first firstStack (moves ++ further) (events ++ others)
      last lastStack := by
  induction onward with
  | refl =>
      rw [List.append_nil, List.append_nil]
      exact run
  | move _ step ih =>
      rw [← List.append_assoc]
      exact .move (ih run) step
  | event event _ ih =>
      rw [← List.append_assoc]
      exact .event event (ih run)

theorem run_of_isEmpty [IsEmpty Event]
    (run : EventRun component undergo first firstStack moves events last lastStack) :
    Run component first firstStack moves last lastStack := by
  induction run with
  | refl => exact .refl _ _
  | move _ step ih => exact .tail ih step
  | event event => exact isEmptyElim event

end EventRun

theorem Run.eventRun {component : Component State Task Request Method Reply}
    {undergo : State → Event → State} {first last : State}
    {firstStack lastStack : List (Frame Task Request)}
    {moves : List (Move Task Request Method Reply)}
    (run : Run component first firstStack moves last lastStack) :
    EventRun component undergo first firstStack moves [] last lastStack := by
  have start : EventRun component undergo first firstStack [] [] first firstStack := .refl _ _
  exact start.append run

/-! ## Moves that are made on the way -/

/-- Whether a move of a certain kind is made at some point of a run. -/
def Makes (component : Component State Task Request Method Reply) (undergo : State → Event → State)
    (certain : State → Move Task Request Method Reply → Prop) (first : State)
    (firstStack : List (Frame Task Request)) (moves : List (Move Task Request Method Reply))
    (events : List Event) (last : State) (lastStack : List (Frame Task Request)) : Prop :=
  ∃ middle middleStack move next nextStack earlier later before after,
    moves = earlier ++ move :: later ∧ events = before ++ after ∧
      EventRun component undergo first firstStack earlier before middle middleStack ∧
        Step component middle middleStack move next nextStack ∧ certain middle move ∧
          EventRun component undergo next nextStack later after last lastStack

namespace Makes

variable {component : Component State Task Request Method Reply} {undergo : State → Event → State}
variable {certain : State → Move Task Request Method Reply → Prop}
variable {first last next : State} {firstStack lastStack nextStack : List (Frame Task Request)}
variable {moves : List (Move Task Request Method Reply)} {events : List Event}
variable {move : Move Task Request Method Reply}

theorem now (run : EventRun component undergo first firstStack moves events last lastStack)
    (step : Step component last lastStack move next nextStack) (here : certain last move) :
    Makes component undergo certain first firstStack (moves ++ [move]) events next nextStack :=
  ⟨last, lastStack, move, next, nextStack, moves, [], events, [], rfl, (List.append_nil _).symm,
    run, step, here, .refl next nextStack⟩

theorem onward (step : Step component last lastStack move next nextStack)
    (made : Makes component undergo certain first firstStack moves events last lastStack) :
    Makes component undergo certain first firstStack (moves ++ [move]) events next nextStack := by
  obtain ⟨middle, middleStack, made, after, afterStack, earlier, later, before, others, rfl, rfl, run,
    making, here, onward⟩ := made
  exact ⟨middle, middleStack, made, after, afterStack, earlier, later ++ [move], before, others,
    List.append_assoc _ _ _, rfl, run, making, here, .move onward step⟩

theorem event (event : Event)
    (made : Makes component undergo certain first firstStack moves events last lastStack) :
    Makes component undergo certain first firstStack moves (events ++ [event])
      (undergo last event) lastStack := by
  obtain ⟨middle, middleStack, made, after, afterStack, earlier, later, before, others, rfl, rfl, run,
    making, here, onward⟩ := made
  exact ⟨middle, middleStack, made, after, afterStack, earlier, later, before, others ++ [event], rfl,
    List.append_assoc _ _ _, run, making, here, .event event onward⟩

end Makes

/-! ## Parts -/

section Project

variable {component : Component State Task Request Method Reply} {undergo : State → Event → State}
variable {PartState PartTask PartRequest PartMethod PartEvent : Type} {PartReply : PartRequest → Type}
variable {part : Component PartState PartTask PartRequest PartMethod PartReply}

/--
A run of the whole shows a run of its part, provided that each move and each event does, as long as
the stack of the whole is as it should be. The part may make moves that cannot be told from the moves
of the whole, but the loud ones are those that are seen.
-/
theorem EventRun.project (undergoPart : PartState → PartEvent → PartState)
    (view : State → PartState)
    (shown : Frame Task Request → Option (Frame PartTask PartRequest))
    (seen : Move Task Request Method Reply → Option (Move PartTask PartRequest PartMethod PartReply))
    (loud : Move PartTask PartRequest PartMethod PartReply → Bool)
    {holds : List (Frame Task Request) → Prop}
    (kept : ∀ {state stack move next nextStack},
      Step component state stack move next nextStack → holds stack → holds nextStack)
    (matched : ∀ {state stack move next nextStack},
      Step component state stack move next nextStack → holds stack →
        ∃ further others, EventRun part undergoPart (view state) (stack.filterMap shown) further
            others (view next) (nextStack.filterMap shown) ∧
          further.filter loud = (seen move).toList.filter loud)
    (undergone : ∀ state event, ∃ others : List PartEvent,
      view (undergo state event) = others.foldl undergoPart (view state))
    {first last : State} {firstStack lastStack : List (Frame Task Request)}
    {moves : List (Move Task Request Method Reply)} {events : List Event}
    (run : EventRun component undergo first firstStack moves events last lastStack)
    (start : holds firstStack) :
    ∃ further others, EventRun part undergoPart (view first) (firstStack.filterMap shown) further
        others (view last) (lastStack.filterMap shown) ∧
      further.filter loud = (moves.filterMap seen).filter loud := by
  refine And.right (run.invariant (fun moves _ last lastStack => holds lastStack ∧
    ∃ further others, EventRun part undergoPart (view first) (firstStack.filterMap shown) further
        others (view last) (lastStack.filterMap shown) ∧
      further.filter loud = (moves.filterMap seen).filter loud) ?_ ?_
    ⟨start, [], [], .refl _ _, rfl⟩)
  · rintro moves events state stack move next nextStack step ⟨sound, parts, others, before, heard⟩
    obtain ⟨further, more, onward, hears⟩ := matched step sound
    refine ⟨kept step sound, parts ++ further, others ++ more, before.trans onward, ?_⟩
    rw [List.filter_append, heard, hears, List.filterMap_append, filterMap_singleton,
      List.filter_append]
  · rintro moves events state stack event ⟨sound, parts, others, before, heard⟩
    obtain ⟨more, same⟩ := undergone state event
    refine ⟨sound, parts, others ++ more, ?_, heard⟩
    rw [same]
    exact before.happen more

end Project

end DatagramMux.Component
