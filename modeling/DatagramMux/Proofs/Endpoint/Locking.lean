import DatagramMux.Endpoint.Udp
import DatagramMux.Proofs.Endpoint.Custody
import DatagramMux.Proofs.Machine.Thread

/-!
# The lock of the endpoint and its closing

Whoever decides what becomes of a write does so under the lock, and has released it when the
completion is reported. Closing shuts the output before it takes the lock: a write that was decided
upon earlier is found in the slot, and one that is decided upon later finds the output shut. So
nothing is parked once the last part of closing is over.
-/

namespace DatagramMux.Udp

open Component

variable {Token : Type} {udp next : Udp Token} {move : UdpMove Token}
variable {taken put : List (UdpFrame Token)} {rest : Multiset (UdpFrame Token)}

theorem length_exchange_le (exchange : Exchange (component Token) udp move taken next put) :
    taken.length ≤ 1 ∧ put.length ≤ 1 := by
  cases exchange with
  | work task => exact ⟨Nat.le_refl 1, length_step_le udp task⟩
  | begin request => exact ⟨Nat.le_refl 1, Nat.le_refl 1⟩
  | finish request reply => exact ⟨Nat.le_refl 1, Nat.zero_le 1⟩
  | enter method => exact ⟨Nat.zero_le 1, Nat.le_refl 1⟩

/-! ## Who holds the lock -/

/-- Whether a frame is in the section that the lock protects. -/
def holds : UdpFrame Token → Bool
  | .task (.write _) | .task .retry | .task .giveUp | .task (.unlock _) => true
  | _ => false

/-- One frame holds the lock if it is taken, and none if it is not. -/
def Guarded (udp : Udp Token) (frames : Multiset (UdpFrame Token)) : Prop :=
  total (fun frame => (holds frame).toNat) frames = udp.locked.toNat

theorem locked_sendOrPark (udp : Udp Token) (outgoing : Outgoing Token) :
    (udp.sendOrPark outgoing).1.locked = udp.locked := by
  fun_cases sendOrPark udp outgoing <;> rfl

theorem step_guarded {task : Task Token} (free : blocked udp task = false)
    (held : holds (.task task) = true → udp.locked = true) :
    ((step udp task).2.map fun frame => (holds frame).toNat).sum + udp.locked.toNat =
      (holds (.task task)).toNat + (step udp task).1.locked.toNat := by
  cases task with
  | lockForWrite outgoing | lockForRetry | lockForClose =>
      have unlocked : udp.locked = false := free
      simp [step, holds, unlocked]
  | write outgoing =>
      simp only [step]
      split
      · simp [holds, locked_sendOrPark]
      · simp [holds]
  | retry =>
      simp only [step]
      split
      · simp [holds]
      · split
        · simp [holds, locked_sendOrPark]
        · simp [holds]
  | unlock report? =>
      have locked := held rfl
      cases report? <;> simp [step, holds, locked]
  | closeInput | closeOutput | shutdownOutput => simp [step, holds]
  | giveUp => simp [step, holds]

theorem Guarded.exchange (exchange : Exchange (component Token) udp move taken next put)
    (guarded : Guarded udp (↑taken + rest)) : Guarded next (↑put + rest) := by
  unfold Guarded at guarded ⊢
  rw [total_add, total_coe] at guarded ⊢
  cases exchange with
  | work task free =>
      have held : holds (.task task) = true → udp.locked = true := by
        intro holding
        cases locked : udp.locked with
        | true => rfl
        | false => simp [holding, locked] at guarded
      have counts := step_guarded free held
      change (holds (.task task)).toNat + 0 + _ = _ at guarded
      change ((step udp task).2.map fun frame => (holds frame).toNat).sum + _ =
        (step udp task).1.locked.toNat
      omega
  | begin request => exact guarded
  | finish request reply => exact guarded
  | enter method => cases method <;> exact guarded

theorem Guarded.locked_iff {frames : Multiset (UdpFrame Token)} (guarded : Guarded udp frames) :
    udp.locked = true ↔ ∃ frame ∈ frames, holds frame = true := by
  constructor
  · intro locked
    by_contra free
    have none : total (fun frame : UdpFrame Token => (holds frame).toNat) frames = 0 := by
      apply Multiset.sum_eq_zero
      intro weight member
      obtain ⟨frame, there, rfl⟩ := Multiset.mem_map.1 member
      cases holding : holds frame with
      | false => rfl
      | true => exact absurd ⟨frame, there, holding⟩ free
    rw [Guarded, none, locked] at guarded
    cases guarded
  · rintro ⟨frame, member, holding⟩
    obtain ⟨others, rfl⟩ := Multiset.exists_cons_of_mem member
    rw [Guarded, total_cons, holding] at guarded
    cases locked : udp.locked with
    | true => rfl
    | false => simp [locked] at guarded

theorem guarded_of_unlocked {frames : Multiset (UdpFrame Token)} (unlocked : udp.locked = false)
    (none : frames = 0) : Guarded udp frames := by
  rw [Guarded, none, unlocked]
  rfl

/-! ## What closing leaves behind -/

/-- Whether a frame is part of closing and has shut the output. -/
def shut : UdpFrame Token → Bool
  | .task .lockForClose | .task .giveUp => true
  | _ => false

/-- Whether a frame is part of closing and will give up the parked write. -/
def closing : UdpFrame Token → Bool
  | .task .closeInput | .task .closeOutput | .task .lockForClose | .task .giveUp => true
  | _ => false

/-- Nothing can be sent or parked any more, and nothing is parked. -/
def Emptied (udp : Udp Token) : Prop := udp.outputOpen = false ∧ udp.parked = none

theorem step_outputOpen (task : Task Token) (closed : udp.outputOpen = false) :
    (step udp task).1.outputOpen = false := by
  cases task with
  | write outgoing => simp [step, closed]
  | retry =>
      simp only [step]
      split
      · exact closed
      · rw [if_neg (by simp [closed])]
        exact closed
  | lockForWrite | lockForRetry | lockForClose | unlock | closeInput | giveUp => exact closed
  | closeOutput | shutdownOutput => rfl

theorem Emptied.step (task : Task Token) (emptied : Emptied udp) : Emptied (step udp task).1 := by
  obtain ⟨closed, empty⟩ := emptied
  refine ⟨step_outputOpen task closed, ?_⟩
  cases task with
  | write outgoing => simp [Udp.step, closed, empty]
  | retry => simp [Udp.step, empty]
  | giveUp => rfl
  | lockForWrite | lockForRetry | lockForClose | unlock | closeInput | closeOutput
  | shutdownOutput => exact empty

theorem Emptied.exchange (exchange : Exchange (component Token) udp move taken next put)
    (emptied : Emptied udp) : Emptied next := by
  cases exchange with
  | work task => exact emptied.step task
  | begin request | finish request reply | enter method => exact emptied

/-- The output is shut before the lock is taken, and when nobody is closing the slot is empty. -/
structure Closing (moves : List (UdpMove Token)) (udp : Udp Token)
    (frames : Multiset (UdpFrame Token)) : Prop where
  shut : ∀ frame ∈ frames, shut frame = true → udp.outputOpen = false
  pending : .enter .close ∈ moves → (∃ frame ∈ frames, closing frame = true) ∨ Emptied udp

/-- A step of closing is followed by the next one, and the last one leaves nothing behind. -/
theorem step_closing {task : Task Token} (closes : closing (.task task) = true)
    (closed : shut (.task task) = true → udp.outputOpen = false) :
    (∃ frame ∈ (step udp task).2, closing frame = true) ∨ Emptied (step udp task).1 := by
  cases task with
  | closeInput | closeOutput | lockForClose => exact .inl ⟨_, List.mem_singleton_self _, rfl⟩
  | giveUp => exact .inr ⟨closed rfl, rfl⟩
  | _ => cases closes

theorem shut_of_step {task : Task Token} {frame : UdpFrame Token}
    (member : frame ∈ (step udp task).2) (shuts : shut frame = true)
    (closed : shut (.task task) = true → udp.outputOpen = false) :
    (step udp task).1.outputOpen = false := by
  cases task with
  | closeOutput => rfl
  | lockForClose => exact closed rfl
  | unlock report? =>
      cases report? with
      | none => cases member
      | some report =>
          obtain rfl := List.mem_singleton.1 member
          cases shuts
  | write outgoing =>
      simp only [step] at member
      split at member <;> obtain rfl := List.mem_singleton.1 member <;> cases shuts
  | retry =>
      simp only [step] at member
      split at member
      · obtain rfl := List.mem_singleton.1 member
        cases shuts
      · split at member <;> obtain rfl := List.mem_singleton.1 member <;> cases shuts
  | shutdownOutput => cases member
  | lockForWrite | lockForRetry | closeInput | giveUp =>
      obtain rfl := List.mem_singleton.1 member
      cases shuts

theorem shut_of_exchange (exchange : Exchange (component Token) udp move taken next put)
    (closed : ∀ frame ∈ taken, Udp.shut frame = true → udp.outputOpen = false) :
    ∀ frame ∈ put, Udp.shut frame = true → next.outputOpen = false := by
  intro frame member shuts
  cases exchange with
  | work task => exact shut_of_step member shuts (closed _ (List.mem_singleton_self _))
  | begin request =>
      obtain rfl := List.mem_singleton.1 member
      cases shuts
  | finish request reply => cases member
  | enter method =>
      obtain rfl := List.mem_singleton.1 member
      cases method <;> cases shuts

theorem outputOpen_of_exchange (exchange : Exchange (component Token) udp move taken next put)
    (closed : udp.outputOpen = false) : next.outputOpen = false := by
  cases exchange with
  | work task => exact step_outputOpen task closed
  | begin request | finish request reply | enter method => exact closed

theorem closing_of_exchange {frame : UdpFrame Token}
    (exchange : Exchange (component Token) udp move taken next put) (member : frame ∈ taken)
    (closes : Udp.closing frame = true)
    (closed : ∀ frame ∈ taken, Udp.shut frame = true → udp.outputOpen = false) :
    (∃ other ∈ put, Udp.closing other = true) ∨ Emptied next := by
  cases exchange with
  | work task =>
      obtain rfl := List.mem_singleton.1 member
      exact step_closing closes (closed _ (List.mem_singleton_self _))
  | begin request | finish request reply =>
      obtain rfl := List.mem_singleton.1 member
      cases closes
  | enter method => cases member

namespace Closing

variable {moves : List (UdpMove Token)}

theorem exchange (exchange : Exchange (component Token) udp move taken next put)
    (closing : Closing moves udp (↑taken + rest)) : Closing (moves ++ [move]) next (↑put + rest) := by
  obtain ⟨closed, pending⟩ := closing
  have closedHere : ∀ frame ∈ taken, Udp.shut frame = true → udp.outputOpen = false :=
    fun frame member => closed frame (Multiset.mem_add.2 (.inl (Multiset.mem_coe.2 member)))
  constructor
  · intro frame member shuts
    rcases Multiset.mem_add.1 member with new | old
    · exact shut_of_exchange exchange closedHere frame (Multiset.mem_coe.1 new) shuts
    · have before := closed frame (Multiset.mem_add.2 (.inr old)) shuts
      exact outputOpen_of_exchange exchange before
  · intro asked
    rcases List.mem_append.1 asked with before | now
    · rcases pending before with ⟨frame, member, closes⟩ | emptied
      · rcases Multiset.mem_add.1 member with here | there
        · rcases closing_of_exchange exchange (Multiset.mem_coe.1 here) closes closedHere with
            ⟨other, new, closes⟩ | emptied
          · exact .inl ⟨other, Multiset.mem_add.2 (.inl (Multiset.mem_coe.2 new)), closes⟩
          · exact .inr emptied
        · exact .inl ⟨frame, Multiset.mem_add.2 (.inr there), closes⟩
      · exact .inr (emptied.exchange exchange)
    · obtain rfl := List.mem_singleton.1 now
      cases exchange
      refine .inl ⟨.task .closeInput, Multiset.mem_add.2 (.inl ?_), rfl⟩
      exact Multiset.mem_coe.2 (List.mem_singleton_self _)

theorem start (udp : Udp Token) : Closing [] udp 0 :=
  ⟨fun frame member => absurd member (Multiset.notMem_zero frame), nofun⟩

theorem same {frames : Multiset (UdpFrame Token)} (same : SameOutput udp next)
    (closing : Closing moves udp frames) : Closing moves next frames := by
  obtain ⟨closed, pending⟩ := closing
  refine ⟨fun frame member shuts => same.outputOpen.trans (closed frame member shuts), fun asked => ?_⟩
  refine (pending asked).imp_right ?_
  rintro ⟨shut, empty⟩
  exact ⟨same.outputOpen.trans shut, same.parked.trans empty⟩

theorem run {further : List (UdpMove Token)} {frames nextFrames : List (UdpFrame Token)}
    (run : Run (component Token) udp frames further next nextFrames)
    (closing : Closing moves udp ↑frames) : Closing (moves ++ further) next ↑nextFrames := by
  refine run.invariant_of_exchange (fun further => Closing (moves ++ further)) ?_ ?_
  · intro further udp move taken next put rest exchange closing
    rw [← List.append_assoc]
    exact closing.exchange exchange
  · rw [List.append_nil]
    exact closing

end Closing

/-! ## Under threads -/

section Threads

variable {first last : Threads (Udp Token) (Task Token) (Request Token)}
variable {moves : List (Nat × UdpMove Token)}

/-- A thread that calls a completion does not hold the lock. -/
theorem unlocked_of_call {thread : Nat} {request : Request Token}
    {stack below : List (UdpFrame Token)}
    (run : ThreadRun (component Token) first moves last) (quiet : first.Quiet)
    (found : last.frames[thread]? = some stack) (calling : stack = .call request :: below) :
    ∀ frame ∈ stack, holds frame = false := by
  intro frame member
  have inside := run.isInside_below (fun exchange => (length_exchange_le exchange).2) quiet thread
  rw [Threads.stack_eq found] at inside
  subst calling
  rcases List.mem_cons.1 member with rfl | deeper
  · rfl
  · have under := inside frame deeper
    cases frame with
    | inside request => rfl
    | task | call => cases under

theorem guarded_of_threadRun (run : ThreadRun (component Token) first moves last)
    (quiet : first.Quiet) (unlocked : first.state.locked = false) :
    Guarded last.state last.gathered := by
  refine run.invariant_of_exchange (fun _ => Guarded) (fun exchange => Guarded.exchange exchange) ?_
  exact guarded_of_unlocked unlocked (gathered_of_quiet quiet)

end Threads

end DatagramMux.Udp
