import DatagramMux.Proofs.Machine.Exchange

/-!
# One thread among several

What a run of several threads is to one of them: the moves that it makes itself are steps on its own
stack, and while the others move, its stack stays as it is. A component whose moves put at most one
frame in place of another leaves only calls under way below the top of a stack.
-/

namespace DatagramMux.Component

variable {State Task Request Method : Type} {Reply : Request → Type}
variable {component : Component State Task Request Method Reply}

/-- The moves that one of several threads has made. -/
def ownMoves (thread : Nat) (moves : List (Nat × Move Task Request Method Reply)) :
    List (Move Task Request Method Reply) :=
  (moves.filter fun made => made.1 = thread).map Prod.snd

theorem ownMoves_concat_self (thread : Nat) (moves : List (Nat × Move Task Request Method Reply))
    (move : Move Task Request Method Reply) :
    ownMoves thread (moves ++ [(thread, move)]) = ownMoves thread moves ++ [move] := by
  simp [ownMoves]

theorem ownMoves_concat_of_ne {thread maker : Nat} (different : thread ≠ maker)
    (moves : List (Nat × Move Task Request Method Reply)) (move : Move Task Request Method Reply) :
    ownMoves thread (moves ++ [(maker, move)]) = ownMoves thread moves := by
  simp [ownMoves, different.symm]

/-- The stack of a thread; a thread that there is not has an empty one. -/
def Threads.stack (threads : Threads State Task Request) (thread : Nat) :
    List (Frame Task Request) :=
  threads.frames.getD thread []

theorem Threads.stack_eq {threads : Threads State Task Request} {thread : Nat}
    {stack : List (Frame Task Request)} (found : threads.frames[thread]? = some stack) :
    threads.stack thread = stack := by
  rw [Threads.stack, List.getD_eq_getElem?_getD, found, Option.getD_some]

theorem Threads.mem_gathered {threads : Threads State Task Request} {thread : Nat}
    {frame : Frame Task Request} (member : frame ∈ threads.stack thread) :
    frame ∈ threads.gathered := by
  rw [Threads.stack, List.getD_eq_getElem?_getD] at member
  cases found : threads.frames[thread]? with
  | none => simp [found] at member
  | some stack =>
      rw [found, Option.getD_some] at member
      exact Multiset.mem_coe.2 (List.mem_flatten_of_mem (List.mem_of_getElem? found) member)

theorem Threads.stack_of_quiet {threads : Threads State Task Request} (quiet : threads.Quiet)
    (thread : Nat) : threads.stack thread = [] := by
  rw [Threads.stack, List.getD_eq_getElem?_getD]
  cases found : threads.frames[thread]? with
  | none => rfl
  | some stack => exact quiet stack (List.mem_of_getElem? found)

section Step

variable {threads next : Threads State Task Request} {thread : Nat}
variable {move : Move Task Request Method Reply}

/-- A move of a thread is a step on its own stack. -/
theorem ThreadStep.own (threadStep : ThreadStep component threads thread move next) :
    Step component threads.state (threads.stack thread) move next.state (next.stack thread) := by
  cases threadStep with
  | move stack nextStack state found step =>
      obtain ⟨inside, -⟩ := List.getElem?_eq_some_iff.1 found
      have after : (threads.frames.set thread nextStack)[thread]? = some nextStack :=
        List.getElem?_set_self inside
      rw [Threads.stack_eq found, Threads.stack_eq after]
      exact step

/-- A move of a thread leaves the stacks of the others as they are. -/
theorem ThreadStep.stack_of_ne (threadStep : ThreadStep component threads thread move next)
    {other : Nat} (different : other ≠ thread) : next.stack other = threads.stack other := by
  cases threadStep
  simp only [Threads.stack, List.getD_eq_getElem?_getD, List.getElem?_set_ne different.symm]

/-- A move of a thread is an exchange beside the frames of any other thread. -/
theorem ThreadStep.exchange_beside (threadStep : ThreadStep component threads thread move next)
    {other : Nat} (different : other ≠ thread) :
    ∃ taken put rest, Exchange component threads.state move taken next.state put ∧
      threads.gathered = ↑taken + (↑(threads.stack other) + rest) ∧
        next.gathered = ↑put + (↑(threads.stack other) + rest) := by
  cases threadStep with
  | move stack nextStack state found step =>
      obtain ⟨taken, put, below, rfl, rfl, exchange⟩ := step.exchange
      obtain ⟨others, before, after⟩ := gathered_set found
      -- The stack of the other thread is still there when that of the first is taken away.
      have apart : ∃ rest, others = ↑(threads.stack other) + rest := by
        have whole := after []
        rw [Multiset.coe_nil, zero_add] at whole
        cases there : (threads.frames.set thread [])[other]? with
        | none =>
            refine ⟨others, ?_⟩
            rw [List.getElem?_set_ne different.symm] at there
            rw [Threads.stack, List.getD_eq_getElem?_getD, there, Option.getD_none,
              Multiset.coe_nil, zero_add]
        | some otherStack =>
            obtain ⟨rest, split, -⟩ := gathered_set there
            rw [List.getElem?_set_ne different.symm] at there
            exact ⟨rest, whole ▸ Threads.stack_eq there ▸ split⟩
      obtain ⟨rest, rfl⟩ := apart
      refine ⟨taken, put, ↑below + rest, exchange, ?_, ?_⟩
      · rw [Threads.gathered, before, ← Multiset.coe_add, add_assoc]
        exact congrArg _ (add_left_comm _ _ _)
      · rw [Threads.gathered, after, ← Multiset.coe_add, add_assoc]
        exact congrArg _ (add_left_comm _ _ _)

end Step

/-- What holds at first and is kept by every move that follows a run holds in the end. -/
theorem ThreadRun.invariant_of_reached {first last : Threads State Task Request}
    (holds : List (Nat × Move Task Request Method Reply) → Threads State Task Request → Prop)
    (kept : ∀ {moves threads thread move next},
      ThreadRun component first moves threads →
        ThreadStep component threads thread move next →
          holds moves threads → holds (moves ++ [(thread, move)]) next)
    {moves : List (Nat × Move Task Request Method Reply)}
    (run : ThreadRun component first moves last) (start : holds [] first) : holds moves last := by
  induction run with
  | refl => exact start
  | tail run step ih => exact kept run step ih

/-- On every stack, what lies below the top is a call that is under way. -/
theorem ThreadRun.isInside_below
    (single : ∀ {state next : State} {move taken put},
      Exchange component state move taken next put → put.length ≤ 1)
    {first last : Threads State Task Request}
    {moves : List (Nat × Move Task Request Method Reply)}
    (run : ThreadRun component first moves last) (quiet : first.Quiet) (thread : Nat) :
    ∀ frame ∈ (last.stack thread).tail, frame.isInside = true := by
  refine run.invariant_of_reached (fun _ threads =>
    ∀ thread, ∀ frame ∈ (threads.stack thread).tail, frame.isInside = true) ?_ ?_ thread
  · intro moves threads maker move next _ threadStep below thread
    by_cases same : thread = maker
    · subst same
      obtain ⟨taken, put, under, -, after, exchange, inside⟩ :=
        threadStep.own.exchange_of_tail (fun _ inside => inside) (below thread)
      have short := single exchange
      rw [after]
      intro frame deeper
      rcases put with - | ⟨top, - | ⟨second, more⟩⟩
      · exact inside frame (List.mem_of_mem_tail deeper)
      · exact inside frame deeper
      · simp at short
    · rw [threadStep.stack_of_ne same]
      exact below thread
  · intro thread
    rw [Threads.stack_of_quiet quiet]
    exact fun frame deeper => nomatch deeper

end DatagramMux.Component
