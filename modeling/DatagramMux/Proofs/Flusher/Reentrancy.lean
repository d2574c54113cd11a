import DatagramMux.Proofs.Flusher.Threads

/-!
# The flusher on one stack

If there is only one thread, the flusher is entered again only from its own calls: from inside the
endpoint's write, from callbacks, or when a failure is reported. Between two calls nothing interferes,
so that the order in which writes are offered is the order in which they are queued, and what was
found of the phase before a write is handed over still holds when the endpoint gets it.
-/

namespace DatagramMux.Flusher

open Component

variable {Callback : Type} {flusher : Flusher Callback}

/-- Whether a step may follow the call of a callback. -/
def Task.follows : Task Callback → Bool
  | .drain _ | .refuseAll _ _ | .succeed | .fail => true
  | _ => false

/-- What holds of the frame on top of the only stack. -/
def Poised (flusher : Flusher Callback) : FlusherFrame Callback → Prop
  | .task (.hand _) => flusher.phase ≠ .terminated
  | .call (.write ticket _) => flusher.phase ≠ .terminated ∧ ticket ∈ flusher.outstanding
  | .call (.notify _ _ next) | .inside (.notify _ _ next) => next.follows = true
  | .task _ | .call .failure | .inside (.write _ _) | .inside .failure => True

theorem Poised.of_isInside {flusher other : Flusher Callback} {frame : FlusherFrame Callback}
    (under : frame.isInside = true) (poised : Poised flusher frame) : Poised other frame := by
  cases frame with
  | task task => cases under
  | call request => cases under
  | inside request => cases request <;> exact poised

theorem Poised.of_follows {flusher : Flusher Callback} {task : Task Callback}
    (follows : task.follows = true) : Poised flusher (.task task) := by
  cases task <;> trivial

/-- What is put in place of a step on top of the stack is poised again. -/
theorem Poised.put {flusher : Flusher Callback} {task : Task Callback}
    (poised : Poised flusher (.task task)) :
    ∀ frame ∈ (step flusher task).2, Poised (step flusher task).1 frame := by
  obtain ⟨phase, queue, current, submitted, completed, failed, handed, outstanding⟩ := flusher
  have single {flusher : Flusher Callback} {frame : FlusherFrame Callback}
      (poised : Poised flusher frame) : ∀ other ∈ [frame], Poised flusher other := by
    intro other member
    exact List.mem_singleton.1 member ▸ poised
  have none {flusher : Flusher Callback} : ∀ other ∈ ([] : List (FlusherFrame Callback)),
      Poised flusher other := fun _ member => nomatch member
  cases task with
  | hand entry => exact single ⟨poised, List.mem_append_right _ (List.mem_singleton_self _)⟩
  | check entry =>
      cases phase with
      | terminated => exact single trivial
      | idle | iterating | pending | called => exact single fun terminated => nomatch terminated
  | count | enqueue | refuse | collect | fail | drain | close => exact single (by trivial)
  | iterate | reclaim | settle | written | regain | succeed | mark | resume =>
      cases phase <;> first | exact none | exact single trivial
  | take | look => cases queue <;> first | exact none | exact single trivial
  | redeem ticket completion =>
      by_cases unused : ticket ∈ outstanding <;> simp only [step, unused, if_true, if_false]
      · exact single trivial
      · exact none
  | tally callback? completion =>
      cases completion <;> cases callback? <;> exact single (by trivial)
  | refuseAll entries report =>
      cases entries with
      | nil => cases report <;> first | exact none | exact single trivial
      | cons => exact single rfl

/-- The entries that a frame has yet to put into the queue. -/
def submission : FlusherFrame Callback → List (WriteEntry Callback)
  | .task (.count entry) | .task (.enqueue entry) => [entry]
  | _ => []

theorem submission_of_isInside {frame : FlusherFrame Callback} (under : frame.isInside = true) :
    submission frame = [] := by
  cases frame with
  | task task => cases under
  | call request => cases under
  | inside request => rfl

theorem submission_of_follows {task : Task Callback} (follows : task.follows = true) :
    submission (.task task) = [] := by
  cases task <;> first | rfl | cases follows

theorem record_work_line (journal : Journal Callback) (flusher : Flusher Callback)
    (task : Task Callback) (line : journal.offered = journal.queued ++ submission (.task task)) :
    (journal.record (.work task)).offered =
      (journal.record (.work task)).queued ++ (step flusher task).2.flatMap submission := by
  obtain ⟨phase, queue, current, submitted, completed, failed, handed, outstanding⟩ := flusher
  cases task with
  | count | refuse | hand | collect | fail | drain | close => exact line
  | enqueue entry => simpa [step, submission, Journal.record] using line
  | iterate | reclaim | settle | check | written | regain | succeed | mark | resume =>
      cases phase <;> exact line
  | take | look => cases queue <;> exact line
  | redeem ticket completion =>
      obtain ⟨reports, recorded⟩ := journal.exists_record_redeem ticket completion
      rw [recorded]
      by_cases unused : ticket ∈ outstanding <;> simp only [step, unused, if_true, if_false] <;>
        exact line
  | tally callback? completion => cases completion <;> cases callback? <;> exact line
  | refuseAll entries report =>
      cases entries with
      | nil => cases report <;> exact line
      | cons => exact line

/-- Only the top of a stack may be something else than a call under way. -/
structure Nested (flusher : Flusher Callback) (stack : List (FlusherFrame Callback)) : Prop where
  top : ∀ frame ∈ stack.head?, Poised flusher frame
  below : ∀ frame ∈ stack.tail, frame.isInside = true ∧ Poised flusher frame

namespace Nested

variable {flusher next : Flusher Callback} {put rest : List (FlusherFrame Callback)}

theorem cons {frame : FlusherFrame Callback} (poised : Poised flusher frame)
    (below : ∀ other ∈ rest, other.isInside = true ∧ Poised flusher other) :
    Nested flusher (frame :: rest) :=
  ⟨fun _ top => Option.some.inj top ▸ poised, below⟩

theorem bare (below : ∀ frame ∈ rest, frame.isInside = true ∧ Poised flusher frame) :
    Nested flusher rest :=
  ⟨fun frame top => (below frame (List.mem_of_mem_head? top)).2,
    fun frame member => below frame (List.mem_of_mem_tail member)⟩

theorem below_next {frame : FlusherFrame Callback} (nested : Nested flusher (frame :: rest)) :
    ∀ other ∈ rest, other.isInside = true ∧ Poised next other := by
  intro other member
  obtain ⟨under, poised⟩ := nested.below other member
  exact ⟨under, poised.of_isInside under⟩

theorem of_enterable {stack : List (FlusherFrame Callback)} (nested : Nested flusher stack)
    (enterable : Enterable stack) :
    ∀ frame ∈ stack, frame.isInside = true ∧ Poised flusher frame := by
  intro frame member
  rcases stack with - | ⟨first, rest⟩
  · cases member
  · rcases List.mem_cons.1 member with rfl | deeper
    · exact ⟨enterable _ rfl, nested.top _ rfl⟩
    · exact nested.below frame deeper

theorem step {stack nextStack : List (FlusherFrame Callback)} {move : FlusherMove Callback}
    (step : Step (component Callback) flusher stack move next nextStack)
    (nested : Nested flusher stack) : Nested next nextStack := by
  cases step with
  | work task rest free =>
      have poised := Poised.put (nested.top _ rfl)
      have single := length_step_le flusher task
      change Nested (Flusher.step flusher task).1 ((Flusher.step flusher task).2 ++ rest)
      generalize (Flusher.step flusher task).2 = put at poised single
      rcases put with - | ⟨frame, - | ⟨second, put⟩⟩
      · exact bare nested.below_next
      · exact cons (poised frame (List.mem_singleton_self frame)) nested.below_next
      · simp at single
  | «begin» request rest =>
      have poised := nested.top _ rfl
      cases request with
      | notify => exact cons poised nested.below_next
      | write | failure => exact cons trivial nested.below_next
  | finish request reply rest =>
      have poised := nested.top _ rfl
      cases request with
      | write => exact cons trivial nested.below_next
      | notify => exact cons (.of_follows poised) nested.below_next
      | failure => exact bare nested.below_next
  | enter method stack enterable =>
      have below := nested.of_enterable enterable
      cases method <;> exact cons trivial below

theorem submission_below {frame : FlusherFrame Callback}
    (nested : Nested flusher (frame :: rest)) : rest.flatMap submission = [] := by
  rw [List.flatMap_eq_nil_iff]
  intro other member
  exact submission_of_isInside (nested.below other member).1

end Nested

/-- On one stack, writes are queued in the order in which they are offered. -/
structure Serial (journal : Journal Callback) (flusher : Flusher Callback)
    (stack : List (FlusherFrame Callback)) : Prop where
  nested : Nested flusher stack
  line : journal.offered = journal.queued ++ stack.flatMap submission

namespace Serial

variable {journal : Journal Callback} {next : Flusher Callback}
variable {stack nextStack : List (FlusherFrame Callback)} {move : FlusherMove Callback}

theorem step (step : Step (component Callback) flusher stack move next nextStack)
    (serial : Serial journal flusher stack) : Serial (journal.record move) next nextStack := by
  obtain ⟨nested, line⟩ := serial
  refine ⟨nested.step step, ?_⟩
  cases step with
  | work task rest free =>
      rw [List.flatMap_cons, nested.submission_below, List.append_nil] at line
      rw [List.flatMap_append, nested.submission_below, List.append_nil]
      exact record_work_line journal flusher task line
  | «begin» request rest => cases request <;> exact line
  | finish request reply rest =>
      have poised := nested.top _ rfl
      cases request with
      | write | failure => exact line
      | notify callback outcome following =>
          change _ = _ ++ (submission (.task following) ++ rest.flatMap submission)
          rw [submission_of_follows poised]
          exact line
  | enter method stack enterable =>
      have bottom : stack.flatMap submission = [] := by
        rw [List.flatMap_eq_nil_iff]
        intro frame member
        exact submission_of_isInside (nested.of_enterable enterable frame member).1
      rw [bottom, List.append_nil] at line
      cases method with
      | offer entry =>
          change journal.offered ++ [entry] = journal.queued ++ ([entry] ++ stack.flatMap submission)
          rw [bottom, line, List.append_nil]
      | iterate | close | complete =>
          change journal.offered = journal.queued ++ stack.flatMap submission
          rw [bottom, line, List.append_nil]

theorem of_run {moves : List (FlusherMove Callback)}
    (run : Run (component Callback) Flusher.new [] moves flusher stack) :
    Serial (Journal.after moves) flusher stack := by
  refine run.invariant_of_step (fun moves => Serial (Journal.after moves)) ?_ ?_
  · intro moves flusher stack move next nextStack step serial
    rw [Journal.after_append_singleton]
    exact serial.step step
  · exact ⟨.bare fun _ member => (nomatch member), rfl⟩

end Serial

/-! ## One write at a time -/

/-- While the endpoint is about to get a write, no other frame is in a write. -/
theorem Owned.not_inside_write {ticket : Nat} {entry : WriteEntry Callback}
    {rest : List (FlusherFrame Callback)}
    (owned : Owned flusher ↑(.call (.write ticket entry) :: rest)) :
    ∀ earlier other, .inside (.write earlier other) ∉ rest := by
  intro earlier other member
  obtain ⟨before, after, rfl⟩ := List.append_of_mem member
  unfold Owned Phase.Admits inRole at owned
  simp only [total_coe, List.map_cons, List.map_append, List.sum_cons, List.sum_append, role,
    Role.share, if_true] at owned
  split at owned <;> omega

/-- While the endpoint is about to get a write, all writes that it has begun are completed. -/
theorem Sound.uncompleted_eq_nil {journal : Journal Callback} {ticket : Nat}
    {entry : WriteEntry Callback} {rest : List (FlusherFrame Callback)}
    (sound : Sound journal flusher ↑(.call (.write ticket entry) :: rest))
    (unused : ticket ∈ flusher.outstanding) : journal.uncompleted = [] := by
  have bounded := sound.owned.bounded
  have sublist := sound.ticketed.uncompleted_sublist
  obtain ⟨calls, calling, begun⟩ := sound.ticketed.begun
  rw [← Multiset.cons_coe, total_cons] at bounded calling
  obtain ⟨handing, awaiting⟩ := bounded
  simp only [cargo, Cargo.calling_add, Multiset.card_add, Multiset.card_singleton] at handing
  have alone : (total cargo (↑rest : Multiset (FlusherFrame Callback))).calling = 0 :=
    Multiset.card_eq_zero.1 (by omega)
  rw [Cargo.calling_add, alone, add_zero] at calling
  obtain rfl : calls = [(entry, ticket)] := Multiset.coe_eq_singleton.1 calling
  obtain ⟨only, outstanding⟩ := List.length_eq_one_iff.1
    (show flusher.outstanding.length = 1 by have := List.length_pos_of_mem unused; omega)
  obtain rfl : ticket = only := by simpa [outstanding] using unused
  rw [outstanding] at sublist
  have distinct : (journal.written.map Prod.snd ++ [ticket]).Nodup := by
    have tickets := congrArg (List.map Prod.snd) begun
    rw [List.map_append, List.zipIdx_map_snd] at tickets
    exact tickets ▸ List.nodup_range'
  apply List.eq_nil_iff_forall_not_mem.2
  intro write member
  have ofTicket : write.2 ∈ [ticket] := sublist.subset (List.mem_map_of_mem member)
  have old : write.2 ∈ journal.written.map Prod.snd :=
    List.mem_map_of_mem (List.mem_of_mem_filter member)
  exact List.disjoint_of_nodup_append distinct old ofTicket

theorem condition_eq_terminating_iff :
    flusher.condition = .terminating ↔ flusher.phase = .terminated := by
  unfold condition
  cases flusher.phase <;> simp [Phase.condition]

theorem terminated_of_run {last : Flusher Callback} {moves : List (FlusherMove Callback)}
    {stack lastStack : List (FlusherFrame Callback)}
    (run : Run (component Callback) flusher stack moves last lastStack)
    (terminated : flusher.phase = .terminated) : last.phase = .terminated := by
  refine run.invariant_of_step (fun _ flusher _ => flusher.phase = .terminated) ?_ terminated
  intro moves flusher stack move next nextStack step terminated
  obtain ⟨taken, put, rest, -, -, exchange⟩ := step.exchange
  have turn := exchange_turn exchange
  rw [terminated] at turn
  exact turn.terminated

/--
However the flusher is entered from inside its own calls: the endpoint gets a write only if it is not
in another one, every earlier write is completed and the flusher is not terminating; a terminating
flusher stays so; and the endpoint gets the writes in the order in which they are offered.
-/
theorem reentrant_single_flight_in_order {moves : List (FlusherMove Callback)}
    {stack : List (FlusherFrame Callback)}
    (run : Run (component Callback) Flusher.new [] moves flusher stack) :
    (∀ ticket entry next nextStack,
        Step (component Callback) flusher stack (.begin (.write ticket entry)) next nextStack →
          (∀ earlier other, .inside (.write earlier other) ∉ stack) ∧
            (Journal.after moves).uncompleted = [] ∧ flusher.condition ≠ .terminating) ∧
      (flusher.condition = .terminating → ∀ further last lastStack,
        Run (component Callback) flusher stack further last lastStack →
          last.condition = .terminating) ∧
        (Journal.after moves).written.map Prod.fst <+: (Journal.after moves).offered := by
  have sound := Sound.of_run run
  obtain ⟨nested, line⟩ := Serial.of_run run
  refine ⟨fun ticket entry next nextStack step => ?_,
    fun terminating further last lastStack onward => ?_, ?_⟩
  · cases step
    obtain ⟨alive, unused⟩ := nested.top _ rfl
    refine ⟨fun earlier other member => ?_, sound.uncompleted_eq_nil unused, ?_⟩
    · rcases List.mem_cons.1 member with top | deeper
      · cases top
      · exact sound.owned.not_inside_write earlier other deeper
    · exact fun terminating => alive (condition_eq_terminating_iff.1 terminating)
  · rw [condition_eq_terminating_iff] at terminating ⊢
    exact terminated_of_run onward terminating
  · rw [line]
    exact sound.written_prefix_queued.trans (List.prefix_append _ _)

/--
A write is offered while the endpoint is in another one, and a third one in the callback of the
first; then the second is about to be handed over.
-/
def nestedOffers : List (Choice (Request Nat) (Method Nat) fun _ => Unit) :=
  List.flatten
    [[.enter (.offer ⟨1, default, []⟩)], List.replicate 7 .proceed,
      [.enter (.offer ⟨2, default, []⟩)], List.replicate 3 .proceed,
      [.finish fun _ => (), .proceed, .enter (.complete 0 (.ok ()))], List.replicate 4 .proceed,
      [.enter (.offer ⟨3, default, []⟩)], List.replicate 3 .proceed,
      [.finish fun _ => ()], List.replicate 5 .proceed]

theorem alone_after_nestedOffers :
    let trace := Trace.follow (component Nat) Flusher.new nestedOffers
    trace.stack = [.call (.write 1 ⟨2, default, []⟩)] ∧
      (Journal.after trace.moves).uncompleted = [] ∧ trace.state.condition ≠ .terminating ∧
        (Journal.after trace.moves).written.map Prod.fst <+: (Journal.after trace.moves).offered := by
  have run := Trace.run_follow (component Nat) Flusher.new nestedOffers
  have stack : (Trace.follow (component Nat) Flusher.new nestedOffers).stack =
      [.call (.write 1 ⟨2, default, []⟩)] := rfl
  obtain ⟨alone, -, inOrder⟩ := reentrant_single_flight_in_order run
  obtain ⟨-, completed, alive⟩ := alone 1 ⟨2, default, []⟩ _ _ (.begin _ _ [])
  exact ⟨stack, completed, alive, inOrder⟩

end DatagramMux.Flusher
