import DatagramMux.Proofs.Flusher.Reentrancy
import DatagramMux.Proofs.Flusher.Failure
import DatagramMux.Proofs.Flusher.Threads

/-!
# The counters agree with what happened

A write is counted when it is submitted, and again just before its callback is called: as completed
if the callback will be told of a success, and as failed otherwise. So a counter may be ahead of the
calls only by the frames that are about to make one, and when the flusher has been left it is exact.
The counters are compared modulo their width, which is what a long run makes of them.
-/

namespace DatagramMux.Flusher

open Component

variable {Callback : Type} {flusher next : Flusher Callback} {journal : Journal Callback}
variable {move : FlusherMove Callback} {frame : FlusherFrame Callback}
variable {taken put : List (FlusherFrame Callback)}

/-- The counter of the writes that succeeded, or of those that did not. -/
def tallied (flusher : Flusher Callback) (success : Bool) : UInt64 :=
  if success then flusher.completed else flusher.failed

/-- How many callbacks were told of a success, or of something else. -/
def Journal.tally (journal : Journal Callback) (success : Bool) : Nat :=
  journal.told.countP fun told => told.2.isOk = success

/-! ## Frames that are behind or ahead -/

def Task.uncounted : Task Callback → Nat
  | .count _ => 1
  | _ => 0

/-- One for a frame that still has to count a submitted write. -/
def uncounted : FlusherFrame Callback → Nat
  | .task task | .call (.notify _ _ task) | .inside (.notify _ _ task) => task.uncounted
  | .call (.write _ _) | .inside (.write _ _) | .call .failure | .inside .failure => 0

/-- One for a frame that is about to call a callback whose write is already counted. -/
def announces (success : Bool) : FlusherFrame Callback → Nat
  | .call (.notify _ outcome _) => if outcome.isOk = success then 1 else 0
  | _ => 0

def Task.voiceless : Task Callback → Bool
  | .tally none _ => true
  | _ => false

/-- Whether a frame counts a completion that has no callback; this does not happen. -/
def voiceless : FlusherFrame Callback → Bool
  | .task task | .call (.notify _ _ task) | .inside (.notify _ _ task) => task.voiceless
  | .call (.write _ _) | .inside (.write _ _) | .call .failure | .inside .failure => false

/-- A step counts the submission that it is for, and nobody has to do so after it. -/
theorem step_submitted (flusher : Flusher Callback) (task : Task Callback) :
    (step flusher task).1.submitted = flusher.submitted + .ofNat task.uncounted ∧
      ((step flusher task).2.map uncounted).sum = 0 := by
  -- Apart from the plain cases there is the tally of a completion and the end of the refusals.
  fun_cases step flusher task with
  | case34 completion counted callback | case33 completion counted =>
      cases completion <;> simp [counted, Completion.sequel, uncounted, Task.uncounted]
  | case46 report => cases report <;> simp [uncounted, Task.uncounted]
  | _ => simp [uncounted, Task.uncounted]

/-- A step counts the write whose callback it is going to call, unless there is no callback. -/
theorem step_tallied (flusher : Flusher Callback) {task : Task Callback}
    (voiced : task.voiceless = false) (success : Bool) :
    (step flusher task).1.tallied success =
      flusher.tallied success + .ofNat ((step flusher task).2.map (announces success)).sum := by
  fun_cases step flusher task with
  | case33 => cases voiced
  | case34 completion counted callback =>
      cases completion <;> cases success <;>
        simp [counted, tallied, announces, Completion.outcome, Except.isOk, Except.toBool]
  | case46 report => cases report <;> simp [announces]
  | _ => cases success <;> simp [tallied, announces, Except.isOk, Except.toBool]

/-- A step goes on without a callback only if it finds none for a completion. -/
theorem step_voiceless {task : Task Callback} (voiced : task.voiceless = false)
    (found : ∀ completion, task = .collect completion → flusher.current ≠ none) :
    ∀ frame ∈ (step flusher task).2, voiceless frame = false := by
  fun_cases step flusher task with
  | case32 completion =>
      obtain ⟨callback, current⟩ := Option.ne_none_iff_exists'.1 (found completion rfl)
      simp [current, voiceless, Task.voiceless]
  | case33 => cases voiced
  | case34 completion counted callback =>
      cases completion <;> simp [Completion.sequel, voiceless, Task.voiceless]
  | case46 report => cases report <;> simp [voiceless, Task.voiceless]
  | _ => simp [voiceless, Task.voiceless]

/-! ## The invariant -/

theorem Journal.record_work (journal : Journal Callback) (task : Task Callback) :
    (journal.record (.work task)).offered = journal.offered ∧
      (journal.record (.work task)).told = journal.told := by
  cases task with
  | redeem ticket completion =>
      obtain ⟨completed, recorded⟩ := journal.exists_record_redeem ticket completion
      rw [recorded]
      exact ⟨rfl, rfl⟩
  | _ => exact ⟨rfl, rfl⟩

/-- The counters, with what some frames are behind or ahead. -/
structure Counted (journal : Journal Callback) (flusher : Flusher Callback)
    (frames : Multiset (FlusherFrame Callback)) : Prop where
  submitted : flusher.submitted + .ofNat (total uncounted frames) = .ofNat journal.offered.length
  told : ∀ success,
    flusher.tallied success = .ofNat (journal.tally success + total (announces success) frames)
  voiced : ∀ frame ∈ frames, voiceless frame = false

theorem exchange_voiceless (exchange : Exchange (component Callback) flusher move taken next put)
    (voiced : ∀ frame ∈ taken, voiceless frame = false)
    (found : ∀ completion, move = .work (.collect completion) → flusher.current ≠ none) :
    ∀ frame ∈ put, voiceless frame = false := by
  intro frame member
  cases exchange with
  | work task =>
      refine step_voiceless (voiced _ (List.mem_singleton_self _)) (fun completion collecting => ?_)
        frame member
      subst collecting
      exact found completion rfl
  | begin request =>
      obtain rfl := List.mem_singleton.1 member
      have before := voiced _ (List.mem_singleton_self _)
      cases request <;> exact before
  | finish request reply =>
      have before := voiced _ (List.mem_singleton_self _)
      cases request with
      | write ticket entry =>
          obtain rfl := List.mem_singleton.1 member
          rfl
      | notify callback outcome following =>
          obtain rfl := List.mem_singleton.1 member
          exact before
      | failure => cases member
  | enter method =>
      obtain rfl := List.mem_singleton.1 member
      cases method <;> rfl

namespace Counted

variable {rest : Multiset (FlusherFrame Callback)}

theorem submitted_exchange
    (exchange : Exchange (component Callback) flusher move taken next put)
    (counted : Counted journal flusher (↑taken + rest)) :
    next.submitted + .ofNat (total uncounted (↑put + rest : Multiset (FlusherFrame Callback))) =
      .ofNat (journal.record move).offered.length := by
  have before := counted.submitted
  rw [total_add, total_coe] at before ⊢
  cases exchange with
  | work task =>
      obtain ⟨counts, settled⟩ := step_submitted flusher task
      change (step flusher task).1.submitted +
        UInt64.ofNat (((step flusher task).2.map uncounted).sum + _) = _
      rw [counts, settled, (journal.record_work task).1, ← before, UInt64.add_assoc,
        ← UInt64.ofNat_add, Nat.zero_add]
      rfl
  | begin request => cases request <;> exact before
  | finish request reply => cases request <;> exact before
  | enter method =>
      cases method with
      | offer entry =>
          rw [List.map_nil, List.sum_nil, Nat.zero_add] at before
          change _ + UInt64.ofNat (1 + total uncounted rest) =
            .ofNat (journal.offered ++ [entry]).length
          rw [List.length_append, List.length_singleton, UInt64.ofNat_add journal.offered.length,
            ← before, Nat.add_comm 1, UInt64.ofNat_add, UInt64.add_assoc]
      | iterate | close | complete => exact before

theorem told_exchange (exchange : Exchange (component Callback) flusher move taken next put)
    (counted : Counted journal flusher (↑taken + rest)) (success : Bool) :
    next.tallied success = .ofNat ((journal.record move).tally success +
      total (announces success) (↑put + rest : Multiset (FlusherFrame Callback))) := by
  have before := counted.told success
  rw [total_add, total_coe] at before ⊢
  cases exchange with
  | work task =>
      have voiced : task.voiceless = false := counted.voiced (.task task) (by simp)
      change (step flusher task).1.tallied success =
        .ofNat (_ + (((step flusher task).2.map (announces success)).sum + _))
      rw [step_tallied flusher voiced, before, ← UInt64.ofNat_add, Journal.tally, Journal.tally,
        (journal.record_work task).2]
      congr 1
      simp only [List.map_singleton, List.sum_singleton, announces]
      omega
  | begin request =>
      cases request with
      | notify callback outcome following =>
          rw [before]
          congr 1
          simp only [Journal.tally, Journal.record, List.countP_append, List.countP_singleton,
            List.map_singleton, List.sum_singleton, announces, decide_eq_true_eq]
          omega
      | write | failure => exact before
  | finish request reply => cases request <;> exact before
  | enter method => cases method <;> exact before

theorem exchange (exchange : Exchange (component Callback) flusher move taken next put)
    (sound : Sound journal flusher (↑taken + rest))
    (counted : Counted journal flusher (↑taken + rest)) :
    Counted (journal.record move) next (↑put + rest) := by
  refine ⟨counted.submitted_exchange exchange, counted.told_exchange exchange, ?_⟩
  intro frame member
  rcases Multiset.mem_add.1 member with new | old
  · refine exchange_voiceless exchange (fun frame taken => ?_) (fun completion collecting => ?_)
      frame (Multiset.mem_coe.1 new)
    · exact counted.voiced frame (Multiset.mem_add.2 (.inl (Multiset.mem_coe.2 taken)))
    · -- What is reported belongs to the write whose callback is in the slot.
      subst collecting
      cases exchange
      apply sound.settled.current_ne_none sound.ticketed
      have certain := (within_total rest).settling
      simp [cargo, Task.cargo]
      omega
  · exact counted.voiced frame (Multiset.mem_add.2 (.inr old))

theorem start : Counted {} (Flusher.new : Flusher Callback) 0 where
  submitted := by simp [new]
  told success := by cases success <;> simp [tallied, new, Journal.tally]
  voiced frame member := absurd member (Multiset.notMem_zero frame)

theorem of_run {moves : List (FlusherMove Callback)} {stack : List (FlusherFrame Callback)}
    (run : Run (component Callback) Flusher.new [] moves flusher stack) :
    Counted (Journal.after moves) flusher ↑stack := by
  have both := run.invariant_of_exchange (fun moves flusher frames =>
    Sound (Journal.after moves) flusher frames ∧ Counted (Journal.after moves) flusher frames)
    ?_ ⟨Sound.start, start⟩
  · exact both.2
  · intro moves flusher move taken next put rest step holds
    rw [Journal.after_append_singleton]
    exact ⟨holds.1.exchange step, exchange step holds.1 holds.2⟩

end Counted

/-! ## When the flusher has been left -/

/-- Every write that was submitted was answered, waits or is with the endpoint. -/
theorem Sound.length_offered (sound : Sound journal flusher 0) :
    journal.offered.length =
      journal.tally true + journal.tally false + flusher.queued + journal.uncompleted.length := by
  have account := congrArg Multiset.card sound.conserved
  have owed := sound.settled.card_owed sound.ticketed
  have unused := congrArg List.length (sound.ticketed.uncompleted_eq rfl)
  have split : journal.told.length = journal.tally true + journal.tally false := by
    rw [List.length_eq_countP_add_countP fun told : Callback × Outcome => told.2.isOk = true]
    simp [Journal.tally]
  rw [total_zero, Cargo.settling_zero, Cargo.answers_zero, Multiset.card_zero,
    Multiset.card_zero] at owed
  simp only [Multiset.coe_card, Multiset.card_add, List.length_map, total_zero, Multiset.card_zero,
    Cargo.callbacks_zero] at account unused
  unfold queued
  omega

/-- What the condition of the flusher tells of the writes that are not answered yet. -/
theorem Sound.condition_cases (sound : Sound journal flusher 0) :
    flusher.condition = .idle ∧ flusher.queued = 0 ∧ journal.uncompleted.length = 0 ∨
      flusher.condition = .processing ∧ journal.uncompleted.length = 1 ∨
        flusher.condition = .terminating ∧ flusher.queued = 0 ∧
          journal.uncompleted.length ≤ 1 := by
  unfold condition queued
  rcases sound.of_quiet with ⟨phase, queue, settled⟩ | ⟨phase, single⟩ | ⟨phase, queue⟩
  · rw [phase, queue, settled]
    exact .inl ⟨rfl, rfl, rfl⟩
  · rw [phase]
    exact .inr (.inl ⟨rfl, single⟩)
  · rw [phase, queue]
    exact .inr (.inr ⟨rfl, rfl, sound.length_uncompleted_le⟩)

/-- The flusher terminates when it is closed or a failed write is dealt with, and not otherwise. -/
theorem exchange_terminated_iff
    (exchange : Exchange (component Callback) flusher move taken next put) :
    next.phase = .terminated ↔
      flusher.phase = .terminated ∨ move = .work .close ∨ move = .work .fail := by
  cases exchange with
  | work task =>
      change (step flusher task).1.phase = .terminated ↔ _
      fun_cases step flusher task with
      | case33 completion counted | case34 completion counted callback =>
          cases completion <;> simp [counted]
      | _ => simp [*]
  | begin request | finish request reply | enter method => simp

theorem terminating_iff_of_run {moves : List (FlusherMove Callback)}
    {stack : List (FlusherFrame Callback)}
    (run : Run (component Callback) Flusher.new [] moves flusher stack) :
    flusher.condition = .terminating ↔ .work .close ∈ moves ∨ .work .fail ∈ moves := by
  rw [condition_eq_terminating_iff]
  refine run.invariant_of_exchange (fun moves flusher _ =>
    flusher.phase = .terminated ↔ .work .close ∈ moves ∨ .work .fail ∈ moves) ?_ (by simp [new])
  intro moves flusher move taken next put rest exchange before
  rw [exchange_terminated_iff exchange, before]
  simp only [List.mem_append, List.mem_singleton]
  grind

/-- What the counters and the condition of a flusher tell when nobody is using it. -/
structure Balanced (moves : List (FlusherMove Callback)) (flusher : Flusher Callback) : Prop where
  submitted : flusher.submitted = .ofNat (Journal.after moves).offered.length
  balance : flusher.submitted = flusher.completed + flusher.failed + .ofNat flusher.queued +
    .ofNat (Journal.after moves).uncompleted.length
  completed : flusher.completed =
    .ofNat ((Journal.after moves).told.countP fun told => told.2.isOk)
  failed : flusher.failed = .ofNat ((Journal.after moves).told.countP fun told => !told.2.isOk)
  idle : flusher.condition = .idle ↔ flusher.condition ≠ .terminating ∧ flusher.queued = 0 ∧
    (Journal.after moves).uncompleted.length = 0
  processing : flusher.condition = .processing → (Journal.after moves).uncompleted.length = 1
  terminating : flusher.condition = .terminating →
    flusher.queued = 0 ∧ (Journal.after moves).uncompleted.length ≤ 1
  closed : flusher.condition = .terminating ↔ .work .close ∈ moves ∨ .work .fail ∈ moves

/--
However the flusher was entered from inside its own calls: whenever it has been left, every write
that was submitted is counted as completed or as failed, according to what its callback was told, or
waits, or is with the endpoint; and the condition tells which of these may be.
-/
theorem writes_accounted_for {moves : List (FlusherMove Callback)}
    (run : Run (component Callback) Flusher.new [] moves flusher []) :
    Balanced moves flusher := by
  have sound : Sound (Journal.after moves) flusher 0 := Sound.of_run run
  have counted : Counted (Journal.after moves) flusher 0 := Counted.of_run run
  have length := sound.length_offered
  have submitted : flusher.submitted = .ofNat (Journal.after moves).offered.length := by
    have counts := counted.submitted
    rwa [total_zero, show UInt64.ofNat 0 = 0 from rfl, UInt64.add_zero] at counts
  have completed := counted.told true
  have failed := counted.told false
  simp only [total_zero, Nat.add_zero, tallied, if_true, Bool.false_eq_true, if_false]
    at completed failed
  have conditions := sound.condition_cases
  refine ⟨submitted, ?_, ?_, ?_, ?_, ?_, ?_, terminating_iff_of_run run⟩
  · rw [submitted, completed, failed, length, UInt64.ofNat_add, UInt64.ofNat_add, UInt64.ofNat_add]
  · simpa [Journal.tally] using completed
  · simpa [Journal.tally] using failed
  · constructor
    · intro idle
      simpa [idle] using conditions
    · rintro ⟨alive, -, settled⟩
      rcases conditions with ⟨idle, -⟩ | ⟨-, single⟩ | ⟨terminating, -⟩
      · exact idle
      · omega
      · exact absurd terminating alive
  · intro processing
    simpa [processing] using conditions
  · intro terminating
    simpa [terminating] using conditions

/--
The first write succeeds and the second fails at once; its callback submits a third, which is
refused.
-/
def failureAndRefusal : List (Choice (Request Nat) (Method Nat) fun _ => Unit) :=
  List.flatten
    [[.enter (.offer ⟨1, default, []⟩)], List.replicate 7 .proceed,
      [.enter (.complete 0 (.ok ()))], List.replicate 4 .proceed, [.finish fun _ => ()],
      List.replicate 2 .proceed, [.finish fun _ => ()], List.replicate 5 .proceed,
      [.enter (.offer ⟨2, default, []⟩)], List.replicate 7 .proceed,
      [.enter (.complete 1 (.error (.system .connectionRefused)))], List.replicate 4 .proceed,
      [.enter (.offer ⟨3, default, []⟩)], List.replicate 3 .proceed,
      [.finish fun _ => ()], List.replicate 4 .proceed, [.finish fun _ => (), .proceed, .proceed],
      List.replicate 2 (.finish fun _ => ()), List.replicate 3 .proceed]

theorem balanced_after_failureAndRefusal :
    let trace := Trace.follow (component Nat) Flusher.new failureAndRefusal
    trace.stack = [] ∧ trace.state.completed = 1 ∧ trace.state.failed = 2 ∧
      Balanced trace.moves trace.state := by
  have run := Trace.run_follow (component Nat) Flusher.new failureAndRefusal
  have left : (Trace.follow (component Nat) Flusher.new failureAndRefusal).stack = [] := rfl
  rw [left] at run
  have balanced := writes_accounted_for run
  exact ⟨left, rfl, rfl, balanced⟩

end DatagramMux.Flusher
