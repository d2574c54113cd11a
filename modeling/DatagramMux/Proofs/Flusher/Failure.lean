import DatagramMux.Proofs.Flusher.Invariant

/-!
# What a failed write brings about

A write that fails terminates the flusher, and nothing is handed to the endpoint after it. Whoever
terminates the flusher is either the one who asked for it to be closed, or the one who dealt with a
failed write; the latter reports the failure when the queue has been emptied.
-/

namespace DatagramMux.Flusher

open Component

variable {Callback : Type} {flusher next : Flusher Callback} {move : FlusherMove Callback}
variable {frame : FlusherFrame Callback} {taken put : List (FlusherFrame Callback)}

/-! ## The last write -/

/-- Whether a step deals with the completion of a failed write, up to the end of the flusher. -/
def Task.fails : Task Callback → Bool
  | .collect (.error _) | .tally _ (.error _) | .fail => true
  | _ => false

/-- Whether a frame deals with the completion of a failed write. -/
def fails : FlusherFrame Callback → Bool
  | .task task => task.fails
  | .call (.notify _ _ next) | .inside (.notify _ _ next) => next.fails
  | _ => false

theorem Task.role_of_fails {task : Task Callback} (failing : task.fails = true) :
    task.role = some .collecting ∨ task.role = some .answering := by
  cases task with
  | collect completion => exact .inl rfl
  | tally callback? completion => exact .inr rfl
  | fail => exact .inr rfl
  | _ => cases failing

theorem role_of_fails (failing : fails frame = true) :
    role frame = some .collecting ∨ role frame = some .answering := by
  cases frame with
  | task task => exact task.role_of_fails failing
  | call request | inside request =>
      cases request with
      | notify callback outcome following => exact following.role_of_fails failing
      | write | failure => cases failing

/-- The only unused ticket is the latest one. -/
theorem Ticketed.last_of_mem {journal : Journal Callback} {cargo : Cargo Callback}
    (ticketed : Ticketed journal flusher cargo) (bounded : Bounded flusher cargo) {ticket : Nat}
    (unused : ticket ∈ flusher.outstanding) : ticket + 1 = journal.handed.length := by
  have awaiting := bounded.awaiting
  obtain ⟨only, outstanding⟩ := List.length_eq_one_iff.1
    (show flusher.outstanding.length = 1 by have := List.length_pos_of_mem unused; omega)
  obtain rfl : ticket = only := by simpa [outstanding] using unused
  have used := outstanding ▸ ticketed.used
  have length := congrArg List.length used
  rw [List.length_append, List.length_singleton, List.length_range] at length
  have last := congrArg List.getLast? used
  rw [← length, List.getLast?_concat, List.range_succ, List.getLast?_concat] at last
  rw [Option.some.inj last, length]

/-- While a failed write is dealt with, nobody is about to hand over another one. -/
theorem Owned.of_fails {frames : Multiset (FlusherFrame Callback)} (owned : Owned flusher frames)
    (member : frame ∈ frames) (failing : fails frame = true) :
    inRole .preparing frames = 0 ∧ inRole .regaining frames = 0 := by
  obtain ⟨rest, rfl⟩ := Multiset.exists_cons_of_mem member
  unfold Owned Phase.Admits awaited inRole at owned
  simp only [inRole, total_cons] at owned ⊢
  rcases role_of_fails failing with collecting | answering
  · rw [collecting] at owned ⊢
    simp only [Role.share, reduceCtorEq, if_false, if_true, Option.some.injEq] at owned ⊢
    split at owned <;> omega
  · rw [answering] at owned ⊢
    simp only [Role.share, reduceCtorEq, if_false, if_true, Option.some.injEq] at owned ⊢
    split at owned <;> omega

/-- The flusher is terminated and nobody will hand over anything any more. -/
def Spent (flusher : Flusher Callback) (frames : Multiset (FlusherFrame Callback)) : Prop :=
  flusher.phase = .terminated ∧ inRole .preparing frames = 0 ∧ inRole .regaining frames = 0

theorem Turn.spent {unused unusedNext : Nat} {role roleNext : Option Role} {next : Phase}
    (turn : Turn .terminated unused role next unusedNext roleNext)
    (preparing : Role.preparing.share role = 0) (regaining : Role.regaining.share role = 0) :
    Role.preparing.share roleNext = 0 ∧ Role.regaining.share roleNext = 0 := by
  cases turn with
  | keep => exact ⟨preparing, regaining⟩
  | stray _ _ _ _ misplaced => cases misplaced
  | hand => cases preparing
  | redeem | collect | fail | close | leave | drain => exact ⟨rfl, rfl⟩

theorem Spent.exchange {rest : Multiset (FlusherFrame Callback)}
    (exchange : Exchange (component Callback) flusher move taken next put)
    (spent : Spent flusher (↑taken + rest)) : Spent next (↑put + rest) := by
  obtain ⟨terminated, preparing, regaining⟩ := spent
  obtain ⟨takenSingle, putSingle⟩ := length_exchange_le exchange
  have turn := exchange_turn exchange
  rw [terminated] at turn
  rw [inRole_add takenSingle] at preparing regaining
  obtain ⟨preparingNext, regainingNext⟩ := turn.spent (by omega) (by omega)
  refine ⟨turn.terminated, ?_, ?_⟩ <;> rw [inRole_add putSingle] <;> omega

/-- A step that deals with a failed write is followed by another one or terminates the flusher. -/
theorem step_fails {task : Task Callback} (failing : task.fails = true) :
    (∃ frame ∈ (step flusher task).2, fails frame = true) ∨
      (step flusher task).1.phase = .terminated ∧
        headRole (step flusher task).2 = some .draining := by
  cases task with
  | collect completion =>
      cases completion with
      | ok => cases failing
      | error cause => exact .inl ⟨_, List.mem_singleton_self _, rfl⟩
  | tally callback? completion =>
      cases completion with
      | ok => cases failing
      | error cause =>
          left
          cases callback? <;> exact ⟨_, List.mem_singleton_self _, rfl⟩
  | fail => exact .inr ⟨rfl, rfl⟩
  | _ => cases failing

theorem exchange_fails (exchange : Exchange (component Callback) flusher move taken next put)
    (member : frame ∈ taken) (failing : fails frame = true) :
    (∃ other ∈ put, fails other = true) ∨
      next.phase = .terminated ∧ headRole put = some .draining := by
  cases exchange with
  | work task =>
      obtain rfl := List.mem_singleton.1 member
      exact step_fails failing
  | begin request =>
      obtain rfl := List.mem_singleton.1 member
      exact .inl ⟨.inside request, List.mem_singleton_self _, by cases request <;> exact failing⟩
  | finish request reply =>
      obtain rfl := List.mem_singleton.1 member
      cases request with
      | notify => exact .inl ⟨_, List.mem_singleton_self _, failing⟩
      | write | failure => cases failing
  | enter method => cases member

/--
A failed write was the last one that was handed over, and either its completion is still dealt with
or the flusher is spent.
-/
def Final (journal : Journal Callback) (flusher : Flusher Callback)
    (frames : Multiset (FlusherFrame Callback)) : Prop :=
  ∀ ticket cause, (ticket, .error cause) ∈ journal.completed →
    ticket + 1 = journal.handed.length ∧
      ((∃ frame ∈ frames, fails frame = true) ∨ Spent flusher frames)

namespace Final

variable {journal : Journal Callback} {rest : Multiset (FlusherFrame Callback)}

/-- Nobody is about to hand over a write if one has failed. -/
theorem preparing_eq_zero {frames : Multiset (FlusherFrame Callback)}
    (sound : Sound journal flusher frames) (final : Final journal flusher frames)
    {ticket : Nat} {cause : IoError} (failed : (ticket, .error cause) ∈ journal.completed) :
    inRole .preparing frames = 0 := by
  rcases (final ticket cause failed).2 with ⟨frame, member, failing⟩ | ⟨-, preparing, -⟩
  · exact (sound.owned.of_fails member failing).1
  · exact preparing

theorem later (exchange : Exchange (component Callback) flusher move taken next put)
    (owned : Owned flusher (↑taken + rest))
    (pending : (∃ frame ∈ (↑taken + rest : Multiset (FlusherFrame Callback)), fails frame = true) ∨
      Spent flusher (↑taken + rest)) :
    (∃ frame ∈ (↑put + rest : Multiset (FlusherFrame Callback)), fails frame = true) ∨
      Spent next (↑put + rest) := by
  rcases pending with ⟨frame, member, failing⟩ | spent
  · rcases Multiset.mem_add.1 member with here | there
    · obtain ⟨preparing, regaining⟩ := owned.of_fails member failing
      obtain ⟨takenSingle, putSingle⟩ := length_exchange_le exchange
      rcases exchange_fails exchange (Multiset.mem_coe.1 here) failing with
        ⟨other, put, failing⟩ | ⟨terminated, draining⟩
      · exact .inl ⟨other, Multiset.mem_add.2 (.inl (Multiset.mem_coe.2 put)), failing⟩
      · rw [inRole_add takenSingle] at preparing regaining
        refine .inr ⟨terminated, ?_, ?_⟩ <;>
          rw [inRole_add putSingle, draining] <;> simp [Role.share] <;> omega
    · exact .inl ⟨frame, Multiset.mem_add.2 (.inr there), failing⟩
  · exact .inr (spent.exchange exchange)

theorem exchange (exchange : Exchange (component Callback) flusher move taken next put)
    (sound : Sound journal flusher (↑taken + rest))
    (final : Final journal flusher (↑taken + rest)) :
    Final (journal.record move) next (↑put + rest) := by
  intro ticket cause failed
  by_cases before : (ticket, .error cause) ∈ journal.completed
  · obtain ⟨last, pending⟩ := final ticket cause before
    refine ⟨?_, later exchange sound.owned pending⟩
    have none := final.preparing_eq_zero sound before
    cases exchange with
    | work task =>
        cases task with
        | hand entry =>
            rw [inRole_add (by simp)] at none
            simp [headRole, role, Task.role, Role.share] at none
        | redeem other completion =>
            obtain ⟨completed, recorded⟩ := journal.exists_record_redeem other completion
            rw [recorded]
            exact last
        | _ => exact last
    | begin request => cases request <;> exact last
    | finish => exact last
    | enter method => cases method <;> exact last
  · -- The completion is reported in this very move.
    cases exchange with
    | work task =>
        cases task with
        | redeem other completion =>
            rw [sound.ticketed.record_redeem] at failed ⊢
            by_cases unused : other ∈ flusher.outstanding
            · rw [if_pos unused] at failed ⊢
              rcases List.mem_append.1 failed with old | new
              · exact absurd old before
              · obtain ⟨rfl, rfl⟩ := Prod.mk.injEq _ _ _ _ ▸ List.mem_singleton.1 new
                refine ⟨sound.ticketed.last_of_mem sound.owned.bounded unused,
                  .inl ⟨.task (.collect (.error cause)), ?_, rfl⟩⟩
                simp [component, step, unused]
            · rw [if_neg unused] at failed
              exact absurd failed before
        | _ => exact absurd failed before
    | begin request => cases request <;> exact absurd failed before
    | finish => exact absurd failed before
    | enter method => cases method <;> exact absurd failed before

theorem start : Final {} (Flusher.new : Flusher Callback) 0 := fun _ _ failed => nomatch failed

theorem of_run {moves : List (FlusherMove Callback)} {stack : List (FlusherFrame Callback)}
    (run : Run (component Callback) Flusher.new [] moves flusher stack) :
    Final (Journal.after moves) flusher ↑stack := by
  have both := run.invariant_of_exchange (fun moves flusher frames =>
    Sound (Journal.after moves) flusher frames ∧ Final (Journal.after moves) flusher frames)
    ?_ ⟨Sound.start, start⟩
  · exact both.2
  · intro moves flusher move taken next put rest step holds
    rw [Journal.after_append_singleton]
    exact ⟨holds.1.exchange step, exchange step holds.1 holds.2⟩

/-- When the flusher has been left, a write that failed has terminated it. -/
theorem terminated (final : Final journal flusher 0) {ticket : Nat} {cause : IoError}
    (failed : (ticket, .error cause) ∈ journal.completed) : flusher.phase = .terminated := by
  rcases (final ticket cause failed).2 with ⟨frame, member, -⟩ | ⟨terminated, -⟩
  · exact absurd member (Multiset.notMem_zero frame)
  · exact terminated

end Final

/-! ## Who terminates the flusher -/

/-- Whether a step leads to the report of a failure. -/
def Task.reports : Task Callback → Bool
  | .drain report | .refuseAll _ report => report
  | _ => false

/-- Whether a frame leads to the report of a failure. -/
def reports : FlusherFrame Callback → Bool
  | .task task => task.reports
  | .call (.notify _ _ next) | .inside (.notify _ _ next) => next.reports
  | .call .failure => true
  | _ => false

theorem step_reports {task : Task Callback} (reporting : task.reports = true) :
    ∃ frame ∈ (step flusher task).2, reports frame = true := by
  cases task with
  | drain report => exact ⟨_, List.mem_singleton_self _, reporting⟩
  | refuseAll entries report =>
      obtain rfl : report = true := reporting
      cases entries <;> exact ⟨_, List.mem_singleton_self _, rfl⟩
  | _ => cases reporting

theorem exchange_reports (exchange : Exchange (component Callback) flusher move taken next put)
    (member : frame ∈ taken) (reporting : reports frame = true) :
    move = .begin .failure ∨ ∃ other ∈ put, reports other = true := by
  cases exchange with
  | work task =>
      obtain rfl := List.mem_singleton.1 member
      exact .inr (step_reports reporting)
  | begin request =>
      obtain rfl := List.mem_singleton.1 member
      cases request with
      | failure => exact .inl rfl
      | notify => exact .inr ⟨_, List.mem_singleton_self _, reporting⟩
      | write => cases reporting
  | finish request reply =>
      obtain rfl := List.mem_singleton.1 member
      cases request with
      | notify => exact .inr ⟨_, List.mem_singleton_self _, reporting⟩
      | write | failure => cases reporting
  | enter method => cases member

/-- The flusher terminates when it is closed, or with a frame that will report a failure. -/
theorem exchange_terminates (exchange : Exchange (component Callback) flusher move taken next put)
    (alive : flusher.phase ≠ .terminated) (terminated : next.phase = .terminated) :
    move = .work .close ∨ ∃ frame ∈ put, reports frame = true := by
  cases exchange with
  | work task =>
      cases task with
      | close => exact .inl rfl
      | fail => exact .inr ⟨_, List.mem_singleton_self _, decide_eq_true alive⟩
      | redeem ticket completion =>
          by_cases unused : ticket ∈ flusher.outstanding <;>
            simp [component, step, unused] at terminated <;> exact absurd terminated alive
      | count | enqueue | refuse | hand | collect | drain => exact absurd terminated alive
      | take | look =>
          simp only [component, step] at terminated
          split at terminated <;> exact absurd terminated alive
      | check entry =>
          simp only [component, step] at terminated
          split at terminated <;> exact absurd terminated alive
      | tally callback? completion =>
          cases completion <;> cases callback? <;> exact absurd terminated alive
      | refuseAll entries report => cases entries <;> exact absurd terminated alive
      | iterate | settle | reclaim | written | regain | succeed | mark | resume =>
          obtain ⟨phase, queue, current, submitted, completed, failed, handed, outstanding⟩ := flusher
          cases phase <;> first | exact absurd rfl alive | cases terminated
  | begin request => exact absurd terminated alive
  | finish request reply => exact absurd terminated alive
  | enter method => exact absurd terminated alive

/-- The flusher was closed, or a failure was reported or is still to be reported. -/
def Announced (moves : List (FlusherMove Callback)) (frames : Multiset (FlusherFrame Callback)) :
    Prop :=
  .work .close ∈ moves ∨ .begin .failure ∈ moves ∨ ∃ frame ∈ frames, reports frame = true

theorem Announced.exchange {moves : List (FlusherMove Callback)}
    {rest : Multiset (FlusherFrame Callback)}
    (exchange : Exchange (component Callback) flusher move taken next put)
    (announced : Announced moves (↑taken + rest)) :
    Announced (moves ++ [move]) (↑put + rest) := by
  rcases announced with closed | failed | ⟨frame, member, reporting⟩
  · exact .inl (List.mem_append_left _ closed)
  · exact .inr (.inl (List.mem_append_left _ failed))
  · rcases Multiset.mem_add.1 member with here | there
    · rcases exchange_reports exchange (Multiset.mem_coe.1 here) reporting with
        rfl | ⟨other, put, reporting⟩
      · exact .inr (.inl (List.mem_append_right _ (List.mem_singleton_self _)))
      · exact .inr (.inr ⟨other, Multiset.mem_add.2 (.inl (Multiset.mem_coe.2 put)), reporting⟩)
    · exact .inr (.inr ⟨frame, Multiset.mem_add.2 (.inr there), reporting⟩)

/-- A terminated flusher was closed, or a failure was reported or is still to be reported. -/
theorem announced_of_run {moves : List (FlusherMove Callback)}
    {stack : List (FlusherFrame Callback)}
    (run : Run (component Callback) Flusher.new [] moves flusher stack)
    (terminated : flusher.phase = .terminated) : Announced moves ↑stack := by
  refine run.invariant_of_exchange (fun moves flusher frames =>
    flusher.phase = .terminated → Announced moves frames) ?_ nofun terminated
  intro moves flusher move taken next put rest exchange announced terminated
  by_cases alive : flusher.phase = .terminated
  · exact (announced alive).exchange exchange
  · rcases exchange_terminates exchange alive terminated with rfl | ⟨frame, member, reporting⟩
    · exact .inl (List.mem_append_right _ (List.mem_singleton_self _))
    · exact .inr (.inr ⟨frame, Multiset.mem_add.2 (.inl (Multiset.mem_coe.2 member)), reporting⟩)

end DatagramMux.Flusher
