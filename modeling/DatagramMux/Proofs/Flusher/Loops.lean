import DatagramMux.Proofs.Flusher.Reentrancy

/-!
# One iteration at a time

If there is only one thread, it never begins to iterate while it iterates already, however the
flusher is entered from inside its own calls. Whatever is asked of a flusher from inside one of its
calls finds it busy or terminated.
-/

namespace DatagramMux.Flusher

open Component

variable {Callback : Type} {flusher : Flusher Callback} {stack : List (FlusherFrame Callback)}
variable {moves : List (FlusherMove Callback)}

/-- Whether a frame belongs to an iteration that has become idle and looks whether it may end. -/
def lingers : FlusherFrame Callback → Bool
  | .task .look | .task .reclaim => true
  | _ => false

/-- Whether a frame belongs to an iteration. -/
def iterates (frame : FlusherFrame Callback) : Bool :=
  lingers frame || role frame = some .preparing || role frame = some .writing ||
    role frame = some .regaining

/-- Whether a step refuses what was in the queue, or reports a failure after that. -/
def Task.refuses : Task Callback → Bool
  | .refuseAll _ _ => true
  | _ => false

def refuses : FlusherFrame Callback → Bool
  | .task task | .call (.notify _ _ task) | .inside (.notify _ _ task) => task.refuses
  | .call .failure | .inside .failure => true
  | .call (.write _ _) | .inside (.write _ _) => false

theorem Owned.terminated_of_draining {frames : Multiset (FlusherFrame Callback)}
    (owned : Owned flusher frames) (draining : 0 < inRole .draining frames) :
    flusher.phase = .terminated := by
  unfold Owned at owned
  cases phase : flusher.phase with
  | terminated => rfl
  | idle | iterating | pending | called =>
      rw [phase] at owned
      simp only [Phase.Admits] at owned
      omega

theorem step_refuses {task : Task Callback} :
    ∀ frame ∈ (step flusher task).2, refuses frame = true →
      task.refuses = true ∨ task.role = some .draining := by
  fun_cases step flusher task with
  | case34 completion counted callback | case33 completion counted =>
      cases completion <;> simp [Completion.sequel, refuses, Task.refuses]
  | case46 report => cases report <;> simp [refuses, Task.refuses]
  | _ => simp [refuses, Task.refuses, Task.role]

theorem exchange_refuses {next : Flusher Callback} {move : FlusherMove Callback}
    {taken put : List (FlusherFrame Callback)}
    (exchange : Exchange (component Callback) flusher move taken next put)
    {frame : FlusherFrame Callback} (member : frame ∈ put) (refusing : refuses frame = true) :
    ∃ other ∈ taken, refuses other = true ∨ role other = some .draining := by
  cases exchange with
  | work task => exact ⟨_, List.mem_singleton_self _, step_refuses frame member refusing⟩
  | begin request =>
      obtain rfl := List.mem_singleton.1 member
      refine ⟨_, List.mem_singleton_self _, .inl ?_⟩
      cases request <;> exact refusing
  | finish request reply =>
      refine ⟨_, List.mem_singleton_self _, .inl ?_⟩
      cases request with
      | notify =>
          obtain rfl := List.mem_singleton.1 member
          exact refusing
      | write =>
          obtain rfl := List.mem_singleton.1 member
          cases refusing
      | failure => cases member
  | enter method =>
      obtain rfl := List.mem_singleton.1 member
      cases method <;> cases refusing

/-- Only a terminated flusher refuses what is in its queue. -/
theorem terminated_of_refuses (run : Run (component Callback) Flusher.new [] moves flusher stack) :
    ∀ frame ∈ stack, refuses frame = true → flusher.phase = .terminated := by
  have both := run.invariant_of_exchange (fun _ flusher frames =>
    Owned flusher frames ∧ ∀ frame ∈ frames, refuses frame = true → flusher.phase = .terminated)
    ?_ ⟨owned_new, fun frame member => absurd member (Multiset.notMem_zero frame)⟩
  · exact fun frame member => both.2 frame (Multiset.mem_coe.2 member)
  · rintro moves flusher move taken next put rest exchange ⟨owned, refusing⟩
    refine ⟨owned.exchange exchange, fun frame member refuses => ?_⟩
    have terminated : flusher.phase = .terminated := by
      rcases Multiset.mem_add.1 member with here | there
      · obtain ⟨other, taken, refuses | draining⟩ :=
          exchange_refuses exchange (Multiset.mem_coe.1 here) refuses
        · exact refusing other (Multiset.mem_add.2 (.inl (Multiset.mem_coe.2 taken))) refuses
        · exact owned.terminated_of_draining
            (inRole_pos (Multiset.mem_add.2 (.inl (Multiset.mem_coe.2 taken))) draining)
      · exact refusing frame (Multiset.mem_add.2 (.inr there)) refuses
    have turn := exchange_turn exchange
    rw [terminated] at turn
    exact turn.terminated

/-- Nobody is responsible for anything while the flusher is idle. -/
theorem Owned.role_eq_none {frames : Multiset (FlusherFrame Callback)}
    (owned : Owned flusher frames) (idle : flusher.phase = .idle) {frame : FlusherFrame Callback}
    (member : frame ∈ frames) : role frame = none := by
  cases found : role frame with
  | none => rfl
  | some wanted =>
      have present := inRole_pos member found
      unfold Owned awaited at owned
      rw [idle] at owned
      simp only [Phase.Admits] at owned
      cases wanted <;> omega

theorem Nested.poised_of_mem (nested : Nested flusher stack) {frame : FlusherFrame Callback}
    (member : frame ∈ stack) : Poised flusher frame := by
  rcases stack with - | ⟨first, rest⟩
  · cases member
  · rcases List.mem_cons.1 member with rfl | deeper
    · exact nested.top _ rfl
    · exact (nested.below frame deeper).2

/-- While one of its calls is under way, a flusher is not idle. -/
theorem not_idle_of_isInside (run : Run (component Callback) Flusher.new [] moves flusher stack)
    {frame : FlusherFrame Callback} (member : frame ∈ stack) (under : frame.isInside = true) :
    flusher.phase ≠ .idle := by
  intro idle
  have owned : Owned flusher ↑stack := (Sound.of_run run).owned
  have unowned := owned.role_eq_none idle (Multiset.mem_coe.2 member)
  have refusing := terminated_of_refuses run frame member
  rw [idle] at refusing
  cases frame with
  | task task => cases under
  | call request => cases under
  | inside request =>
      cases request with
      | write ticket entry => cases unowned
      | failure => cases refusing rfl
      | notify callback outcome following =>
          have follows : following.follows = true := (Serial.of_run run).nested.poised_of_mem member
          cases following with
          | refuseAll => cases refusing rfl
          | drain | succeed | fail => cases unowned
          | _ => cases follows

/-! ## At most one iteration -/

theorem step_lingers (flusher : Flusher Callback) (task : Task Callback)
    (before : lingers (.task task) = true → flusher.phase = .idle) :
    ∀ frame ∈ (step flusher task).2, lingers frame = true → (step flusher task).1.phase = .idle := by
  obtain ⟨phase, queue, current, submitted, completed, failed, handed, outstanding⟩ := flusher
  cases task with
  | look => cases queue <;> simp_all [step, lingers]
  | settle | iterate | reclaim | check | written | regain | succeed | mark | resume =>
      cases phase <;> simp [step, lingers]
  | take => cases queue <;> simp [step, lingers]
  | redeem ticket completion =>
      by_cases unused : ticket ∈ outstanding <;> simp [step, lingers, unused]
  | tally callback? completion =>
      cases completion <;> cases callback? <;> simp [step, lingers, Completion.sequel]
  | refuseAll entries report =>
      cases entries with
      | nil => cases report <;> simp [step, lingers]
      | cons => simp [step, lingers]
  | count | enqueue | refuse | hand | collect | fail | drain | close => simp [step, lingers]

theorem lingers_of_isInside {frame : FlusherFrame Callback} (under : frame.isInside = true) :
    lingers frame = false := by
  cases frame with
  | task task => cases under
  | call request | inside request => rfl

theorem lingers_of_follows {task : Task Callback} (follows : task.follows = true) :
    lingers (.task task) = false := by
  cases task <;> first | rfl | cases follows

/-- An iteration that looks whether it may end has left the flusher idle. -/
theorem idle_of_lingers (run : Run (component Callback) Flusher.new [] moves flusher stack) :
    ∀ frame ∈ stack, lingers frame = true → flusher.phase = .idle := by
  have both := run.invariant_of_step (fun _ flusher stack => Nested flusher stack ∧
    ∀ frame ∈ stack, lingers frame = true → flusher.phase = .idle) ?_
    ⟨.bare fun _ member => (nomatch member), fun _ member => nomatch member⟩
  · exact both.2
  · rintro moves flusher stack move next nextStack step ⟨nested, idle⟩
    refine ⟨nested.step step, fun frame member lingering => ?_⟩
    cases step with
    | work task rest free =>
        rcases List.mem_append.1 member with here | below
        · exact step_lingers flusher task (idle _ List.mem_cons_self) frame here lingering
        · rw [lingers_of_isInside (nested.below frame below).1] at lingering
          cases lingering
    | «begin» request rest =>
        rcases List.mem_cons.1 member with rfl | below
        · cases lingering
        · exact idle frame (List.mem_cons_of_mem _ below) lingering
    | finish request reply rest =>
        rcases List.mem_append.1 member with here | below
        · have poised := nested.top _ rfl
          cases request with
          | write =>
              obtain rfl := List.mem_singleton.1 here
              cases lingering
          | notify callback outcome following =>
              obtain rfl := List.mem_singleton.1 here
              rw [lingers_of_follows (nested.top _ rfl)] at lingering
              cases lingering
          | failure => cases here
        · exact idle frame (List.mem_cons_of_mem _ below) lingering
    | enter method stack enterable =>
        rcases List.mem_cons.1 member with rfl | below
        · cases method <;> cases lingering
        · exact idle frame below lingering

theorem countP_iterates_le_add (frames : List (FlusherFrame Callback)) :
    let all : Multiset (FlusherFrame Callback) := ↑frames
    frames.countP iterates ≤ frames.countP lingers +
      (inRole .preparing all + inRole .writing all + inRole .regaining all) := by
  induction frames with
  | nil => exact Nat.zero_le _
  | cons frame frames ih =>
      simp only [inRole, ← Multiset.cons_coe, total_cons, List.countP_cons] at ih ⊢
      have single : (if iterates frame = true then 1 else 0) ≤
          (if lingers frame = true then 1 else 0) +
            (Role.preparing.share (role frame) + Role.writing.share (role frame) +
              Role.regaining.share (role frame)) := by
        simp only [iterates, Role.share, Bool.or_eq_true, decide_eq_true_eq]
        split_ifs <;> simp_all
      omega

theorem Nested.countP_lingers_le (nested : Nested flusher stack) : stack.countP lingers ≤ 1 := by
  rcases stack with - | ⟨first, rest⟩
  · exact Nat.zero_le _
  · have below : rest.countP lingers = 0 := by
      rw [List.countP_eq_zero]
      intro frame member
      rw [lingers_of_isInside (nested.below frame member).1]
      exact Bool.false_ne_true
    rw [List.countP_cons, below]
    split <;> omega

/-- However the flusher is entered from inside its own calls, it iterates once at most. -/
theorem countP_iterates_le (run : Run (component Callback) Flusher.new [] moves flusher stack) :
    stack.countP iterates ≤ 1 := by
  have owned : Owned flusher ↑stack := (Sound.of_run run).owned
  have bound := countP_iterates_le_add stack
  have single := (Serial.of_run run).nested.countP_lingers_le
  unfold Owned at owned
  by_cases idle : flusher.phase = .idle
  · rw [idle] at owned
    simp only [Phase.Admits] at owned
    omega
  · have none : stack.countP lingers = 0 := by
      rw [List.countP_eq_zero]
      exact fun frame member lingering => idle (idle_of_lingers run frame member lingering)
    cases phase : flusher.phase <;> rw [phase] at owned <;> simp only [Phase.Admits] at owned <;>
      omega

end DatagramMux.Flusher
