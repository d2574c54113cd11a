import DatagramMux.Proofs.Flusher.Reentrancy

/-!
# What callbacks are told

Every write that is offered brings a callback of its own. It is called at most once, with the outcome
of the write if the endpoint got it, and with a refusal otherwise. When the flusher has been left,
only the callbacks of writes that wait or are under way have not been called yet.
-/

namespace DatagramMux.Flusher

open Component

variable {Callback : Type} {journal : Journal Callback} {flusher : Flusher Callback}
variable {cargo : Cargo Callback}

/-- Whether the endpoint got a write that was then completed in a given way. -/
def Journal.Ended (journal : Journal Callback) (entry : WriteEntry Callback)
    (completion : Completion) : Prop :=
  ∃ ticket, (entry, ticket) ∈ journal.written ∧ (ticket, completion) ∈ journal.completed

theorem Ticketed.ticket_eq (ticketed : Ticketed journal flusher cargo) {position : Nat}
    {completed : Nat × Completion} (found : journal.completed[position]? = some completed) :
    completed.1 = position := by
  have within := (List.getElem?_eq_some_iff.1 found).1
  have ticket : (journal.completed.map Prod.fst ++ flusher.outstanding)[position]? =
      some completed.1 := by
    rw [List.getElem?_append_left (by simpa using within), List.getElem?_map, found]
    rfl
  rw [ticketed.used] at ticket
  obtain ⟨_, equal⟩ := List.getElem?_eq_some_iff.1 ticket
  exact (List.getElem_range _ ▸ equal).symm

/-- The callbacks of handed writes are called in order, each with what was reported of its write. -/
theorem Settled.getElem? (settled : Settled journal flusher cargo)
    (ticketed : Ticketed journal flusher cargo) {position : Nat} {told : Callback × Outcome}
    (found : journal.settled[position]? = some told) :
    ∃ entry completion, journal.handed[position]? = some entry ∧
      (position, completion) ∈ journal.completed ∧
        told = (entry.callback, completion.outcome) := by
  obtain ⟨⟨answers, -, reported⟩, ⟨owed, -, callbacks⟩, -⟩ := settled
  have within := (List.getElem?_eq_some_iff.1 found).1
  have callback : (journal.handed.map WriteEntry.callback)[position]? = some told.1 := by
    rw [callbacks, List.getElem?_append_left (by simpa using within), List.getElem?_map, found]
    rfl
  have outcome : (journal.completed.map fun completed => completed.2.outcome)[position]? =
      some told.2 := by
    rw [reported, List.getElem?_append_left (by simpa using within), List.getElem?_map, found]
    rfl
  rw [List.getElem?_map, Option.map_eq_some_iff] at callback outcome
  obtain ⟨entry, handed, callback⟩ := callback
  obtain ⟨⟨ticket, completion⟩, completed, outcome⟩ := outcome
  obtain rfl := ticketed.ticket_eq completed
  exact ⟨entry, completion, handed, List.mem_of_getElem? completed, by rw [callback, outcome]⟩

theorem Settled.told_of_completed (settled : Settled journal flusher cargo)
    (ticketed : Ticketed journal flusher cargo) (answered : cargo.answers = 0)
    {entry : WriteEntry Callback} {ticket : Nat} {completion : Completion}
    (handed : (entry, ticket) ∈ journal.handed.zipIdx)
    (completed : (ticket, completion) ∈ journal.completed) :
    (entry.callback, completion.outcome) ∈ journal.settled := by
  obtain ⟨⟨answers, pending, reported⟩, ⟨owed, -, callbacks⟩, -⟩ := settled
  obtain rfl : answers = [] := (Multiset.coe_eq_zero _).1 (pending.trans answered)
  obtain ⟨position, found⟩ := List.mem_iff_getElem?.1 completed
  obtain rfl := ticketed.ticket_eq found
  rw [List.append_nil] at reported
  have outcome : (journal.settled.map Prod.snd)[ticket]? = some completion.outcome := by
    rw [← reported, List.getElem?_map, found]
    rfl
  rw [List.getElem?_map, Option.map_eq_some_iff] at outcome
  obtain ⟨⟨callback, outcome⟩, told, rfl⟩ := outcome
  have within := (List.getElem?_eq_some_iff.1 told).1
  have called : (journal.handed.map WriteEntry.callback)[ticket]? = some callback := by
    rw [callbacks, List.getElem?_append_left (by simpa using within), List.getElem?_map, told]
    rfl
  rw [List.getElem?_map, List.mk_mem_zipIdx_iff_getElem?.1 handed] at called
  obtain rfl : entry.callback = callback := Option.some.inj called
  exact List.mem_of_getElem? told

theorem Conserved.nodup_told (conserved : Conserved journal flusher cargo)
    (distinct : (journal.offered.map WriteEntry.callback).Nodup) :
    (journal.told.map Prod.fst).Nodup ∧
      ∀ callback ∈ ↑(flusher.queue.map WriteEntry.callback) + ↑flusher.current.toList +
        cargo.callbacks, callback ∉ journal.told.map Prod.fst := by
  rw [← Multiset.coe_nodup, conserved, add_assoc, add_assoc, Multiset.nodup_add,
    ← add_assoc] at distinct
  obtain ⟨told, -, disjoint⟩ := distinct
  refine ⟨Multiset.coe_nodup.1 told, fun callback left called => ?_⟩
  exact Multiset.disjoint_left.1 disjoint (Multiset.mem_coe.2 called) left

/-- The callback of a write that was handed over is not told of a refusal. -/
theorem Settled.not_handed_of_refused (settled : Settled journal flusher cargo)
    (conserved : Conserved journal flusher cargo)
    (distinct : (journal.offered.map WriteEntry.callback).Nodup)
    {entry : WriteEntry Callback} {outcome : Outcome}
    (told : (entry.callback, outcome) ∈ journal.told) (refused : isRefusal outcome = true) :
    entry ∉ journal.handed := by
  intro handed
  obtain ⟨once, untold⟩ := conserved.nodup_told distinct
  obtain ⟨-, ⟨owed, owes, callbacks⟩, -⟩ := settled
  have member : entry.callback ∈ journal.settled.map Prod.fst ++ owed :=
    callbacks ▸ List.mem_map_of_mem handed
  rcases List.mem_append.1 member with called | waiting
  · obtain ⟨⟨callback, other⟩, settled, same⟩ := List.mem_map.1 called
    obtain ⟨toldOther, kept⟩ := List.mem_filter.1 settled
    obtain ⟨-, rfl⟩ := Prod.mk.injEq _ _ _ _ ▸ List.inj_on_of_nodup_map once toldOther told same
    simp [refused] at kept
  · refine untold entry.callback ?_ (List.mem_map_of_mem told)
    rw [← Multiset.mem_coe, owes] at waiting
    rcases Multiset.mem_add.1 waiting with current | settling
    · exact Multiset.mem_add.2 (.inl (Multiset.mem_add.2 (.inr current)))
    · refine Multiset.mem_add.2 (.inr ?_)
      simp only [Cargo.callbacks, Multiset.mem_add]
      exact .inl (.inr settling)

theorem Task.calling_eq_zero (task : Task Callback) : task.cargo.calling = 0 := by
  cases task with
  | tally callback? completion => cases callback? <;> rfl
  | _ => rfl

theorem eq_call_of_mem_calling {frame : FlusherFrame Callback} {call : WriteEntry Callback × Nat}
    (member : call ∈ (Flusher.cargo frame).calling) : frame = .call (.write call.2 call.1) := by
  have none (task : Task Callback) : call ∉ task.cargo.calling := by
    rw [task.calling_eq_zero]
    exact Multiset.notMem_zero call
  cases frame with
  | task task => exact absurd member (none task)
  | call request =>
      cases request with
      | write ticket entry =>
          obtain rfl := Multiset.mem_singleton.1 member
          rfl
      | notify callback outcome following =>
          by_cases concludes : following.concludes = true
          · rw [Flusher.cargo, if_pos concludes] at member
            exact absurd member (Multiset.notMem_zero call)
          · rw [Flusher.cargo, if_neg concludes, Cargo.calling_add, Multiset.mem_add] at member
            rcases member with member | member
            · exact absurd member (Multiset.notMem_zero call)
            · exact absurd member (none following)
      | failure => exact absurd member (Multiset.notMem_zero call)
  | inside request =>
      cases request with
      | write | failure => exact absurd member (Multiset.notMem_zero call)
      | notify callback outcome following => exact absurd member (none following)

theorem mem_calling {stack : List (FlusherFrame Callback)} {call : WriteEntry Callback × Nat}
    (member : call ∈ (total Flusher.cargo (stack : Multiset (FlusherFrame Callback))).calling) :
    .call (.write call.2 call.1) ∈ stack := by
  induction stack with
  | nil => exact absurd member (Multiset.notMem_zero call)
  | cons frame rest ih =>
      rw [← Multiset.cons_coe, total_cons, Cargo.calling_add, Multiset.mem_add] at member
      rcases member with here | deeper
      · exact eq_call_of_mem_calling here ▸ List.mem_cons_self
      · exact List.mem_cons_of_mem frame (ih deeper)

theorem Nested.unused_of_mem {stack : List (FlusherFrame Callback)}
    (nested : Nested flusher stack) {ticket : Nat} {entry : WriteEntry Callback}
    (member : .call (.write ticket entry) ∈ stack) : ticket ∈ flusher.outstanding := by
  rcases stack with - | ⟨frame, rest⟩
  · cases member
  · rcases List.mem_cons.1 member with rfl | deeper
    · exact (nested.top _ rfl).2
    · cases (nested.below _ deeper).1

/-! ## On one stack -/

section OneStack

variable {stack : List (FlusherFrame Callback)}

theorem Serial.handed_prefix_offered (serial : Serial journal flusher stack)
    (sound : Sound journal flusher ↑stack) : journal.handed <+: journal.offered := by
  rw [serial.line]
  exact sound.inLine.handed.trans (List.prefix_append _ _)

theorem Serial.offered_of_written (serial : Serial journal flusher stack)
    (sound : Sound journal flusher ↑stack) {entry : WriteEntry Callback} {ticket : Nat}
    (written : (entry, ticket) ∈ journal.written) : entry ∈ journal.offered := by
  have handed := sound.ticketed.written_prefix.subset written
  rw [List.mk_mem_zipIdx_iff_getElem?] at handed
  exact (serial.handed_prefix_offered sound).subset (List.mem_of_getElem? handed)

theorem Nested.written_of_completed (nested : Nested flusher stack)
    (sound : Sound journal flusher ↑stack) {entry : WriteEntry Callback} {ticket : Nat}
    {completion : Completion} (handed : (entry, ticket) ∈ journal.handed.zipIdx)
    (completed : (ticket, completion) ∈ journal.completed) :
    (entry, ticket) ∈ journal.written := by
  obtain ⟨calls, calling, begun⟩ := sound.ticketed.begun
  rw [← begun, List.mem_append] at handed
  rcases handed with written | call
  · exact written
  · rw [← Multiset.mem_coe, calling] at call
    have unused := nested.unused_of_mem (mem_calling call)
    obtain ⟨-, fresh⟩ := sound.ticketed.mem_outstanding_iff.1 unused
    exact absurd (List.mem_map_of_mem completed) fresh

theorem Sound.ticket_unique (sound : Sound journal flusher ↑stack)
    (distinct : journal.handed.Nodup) {entry : WriteEntry Callback} {first second : Nat}
    (one : (entry, first) ∈ journal.written) (other : (entry, second) ∈ journal.written) :
    first = second := by
  have handed := sound.ticketed.written_prefix.subset one
  have handedAgain := sound.ticketed.written_prefix.subset other
  rw [List.mk_mem_zipIdx_iff_getElem?] at handed handedAgain
  exact (List.getElem?_inj (List.getElem?_eq_some_iff.1 handed).1 distinct).1
    (handed.trans handedAgain.symm)

theorem Sound.ended_unique (sound : Sound journal flusher ↑stack)
    (distinct : journal.handed.Nodup) {entry : WriteEntry Callback} {first second : Completion}
    (one : journal.Ended entry first) (other : journal.Ended entry second) : first = second := by
  obtain ⟨ticket, written, completed⟩ := one
  obtain ⟨again, writtenAgain, completedAgain⟩ := other
  obtain rfl := sound.ticket_unique distinct written writtenAgain
  have once : (journal.completed.map Prod.fst).Nodup := by
    have tickets : (List.range journal.handed.length).Nodup := List.nodup_range
    rw [← sound.ticketed.used] at tickets
    exact tickets.of_append_left
  exact (Prod.mk.inj (List.inj_on_of_nodup_map once completed completedAgain rfl)).2

variable (serial : Serial journal flusher stack) (sound : Sound journal flusher ↑stack)
variable (distinct : (journal.offered.map WriteEntry.callback).Nodup)
include serial sound distinct

/-- A callback that is not told of a refusal is told how its write ended. -/
theorem ended_of_told {entry : WriteEntry Callback} (offered : entry ∈ journal.offered)
    {outcome : Outcome} (told : (entry.callback, outcome) ∈ journal.told)
    (kept : isRefusal outcome = false) :
    ∃ completion, journal.Ended entry completion ∧ outcome = completion.outcome := by
  have settled : (entry.callback, outcome) ∈ journal.settled :=
    List.mem_filter.2 ⟨told, by simp [kept]⟩
  obtain ⟨position, found⟩ := List.mem_iff_getElem?.1 settled
  obtain ⟨other, completion, handed, completed, equal⟩ :=
    sound.settled.getElem? sound.ticketed found
  obtain ⟨callback, rfl⟩ := Prod.mk.inj equal
  have otherOffered : other ∈ journal.offered :=
    (serial.handed_prefix_offered sound).subset (List.mem_of_getElem? handed)
  obtain rfl := List.inj_on_of_nodup_map distinct offered otherOffered callback
  have written := serial.nested.written_of_completed sound
    (List.mk_mem_zipIdx_iff_getElem?.2 handed) completed
  exact ⟨completion, ⟨position, written, completed⟩, rfl⟩

/-- A callback is told of a refusal just if the endpoint never got its write. -/
theorem isRefusal_iff {entry : WriteEntry Callback} (offered : entry ∈ journal.offered)
    {outcome : Outcome} (told : (entry.callback, outcome) ∈ journal.told) :
    isRefusal outcome = true ↔ entry ∉ journal.written.map Prod.fst := by
  constructor
  · intro refused written
    obtain ⟨⟨entry, ticket⟩, member, rfl⟩ := List.mem_map.1 written
    apply sound.settled.not_handed_of_refused sound.conserved distinct told refused
    exact List.mem_of_getElem? (List.mk_mem_zipIdx_iff_getElem?.1
      (sound.ticketed.written_prefix.subset member))
  · intro unwritten
    by_contra kept
    obtain ⟨completion, ⟨ticket, written, -⟩, -⟩ :=
      ended_of_told serial sound distinct offered told (by simpa using kept)
    exact unwritten (List.mem_map_of_mem written)

theorem nodup_handed : journal.handed.Nodup := by
  have offered : journal.offered.Nodup := distinct.of_map
  exact (serial.handed_prefix_offered sound).sublist.nodup offered

/-- What a callback was told tells what has become of its write. -/
theorem outcome_iff {entry : WriteEntry Callback} (offered : entry ∈ journal.offered)
    {outcome : Outcome} (told : (entry.callback, outcome) ∈ journal.told) :
    (outcome = .ok () ↔ journal.Ended entry (.ok ())) ∧
      (∀ cause, outcome = .error (.io cause) ↔ journal.Ended entry (.error cause)) ∧
        (outcome = .error .closed ↔ entry ∉ journal.written.map Prod.fst) := by
  have refused := isRefusal_iff serial sound distinct offered told
  by_cases kept : isRefusal outcome = true
  · -- The endpoint never got the write, so it cannot have been completed.
    have unwritten := refused.1 kept
    have open_ (completion : Completion) : ¬journal.Ended entry completion := by
      rintro ⟨ticket, written, -⟩
      exact unwritten (List.mem_map_of_mem written)
    obtain rfl : outcome = .error .closed := by
      unfold isRefusal at kept
      split at kept
      · rfl
      · cases kept
    exact ⟨iff_of_false nofun (open_ _), fun cause => iff_of_false nofun (open_ _),
      iff_of_true rfl unwritten⟩
  · obtain ⟨completion, ended, rfl⟩ :=
      ended_of_told serial sound distinct offered told (by simpa using kept)
    have unique (other : Completion) : journal.Ended entry other ↔ completion = other := by
      constructor
      · exact sound.ended_unique (nodup_handed serial sound distinct) ended
      · rintro rfl
        exact ended
    refine ⟨?_, fun cause => ?_, iff_of_false (fun closed => ?_) (fun unwritten => ?_)⟩
    · rw [unique]
      rcases completion with cause | ⟨⟩ <;> simp [Completion.outcome]
    · rw [unique]
      rcases completion with cause | ⟨⟩ <;> simp [Completion.outcome]
    · rw [closed] at kept
      exact kept rfl
    · exact kept (refused.2 unwritten)

end OneStack

/-! ## When the flusher has been left -/

theorem Sound.told_of_ended (sound : Sound journal flusher 0) {entry : WriteEntry Callback}
    {completion : Completion} (ended : journal.Ended entry completion) :
    (entry.callback, completion.outcome) ∈ journal.told := by
  obtain ⟨ticket, written, completed⟩ := ended
  have handed := sound.ticketed.written_prefix.subset written
  exact List.mem_of_mem_filter
    (sound.settled.told_of_completed sound.ticketed rfl handed completed)

theorem Serial.queue_subset_offered (serial : Serial journal flusher [])
    (sound : Sound journal flusher 0) : flusher.queue ⊆ journal.offered := by
  intro entry waiting
  by_cases terminated : flusher.phase = .terminated
  · -- A terminated flusher is left with an empty queue only.
    obtain ⟨frame, member, -⟩ := sound.attended (by rw [terminated]; rfl)
      (List.ne_nil_of_mem waiting)
    exact absurd member (Multiset.notMem_zero frame)
  · obtain ⟨passing, -, line⟩ := sound.inLine.waiting terminated
    rw [serial.line, ← line]
    simp [waiting]

/-- The callback in the slot is that of a write which is under way. -/
theorem Sound.uncompleted_of_current (sound : Sound journal flusher 0) {callback : Callback}
    (current : callback ∈ flusher.current.toList) (untold : callback ∉ journal.told.map Prod.fst) :
    ∃ entry ∈ journal.uncompleted.map Prod.fst, entry.callback = callback := by
  obtain ⟨-, ⟨owed, owes, callbacks⟩, -⟩ := sound.settled
  obtain ⟨calls, calling, begun⟩ := sound.ticketed.begun
  obtain rfl : calls = [] := (Multiset.coe_eq_zero _).1 calling
  have member : callback ∈ owed := by
    rw [← Multiset.mem_coe, owes]
    exact Multiset.mem_add.2 (.inl (Multiset.mem_coe.2 current))
  have called : callback ∈ journal.handed.map WriteEntry.callback :=
    callbacks ▸ List.mem_append_right _ member
  obtain ⟨entry, handed, rfl⟩ := List.mem_map.1 called
  obtain ⟨ticket, found⟩ := List.mem_iff_getElem?.1 handed
  have written : (entry, ticket) ∈ journal.written := by
    rw [List.append_nil] at begun
    exact begun ▸ List.mk_mem_zipIdx_iff_getElem?.2 found
  have uncompleted : ticket ∉ journal.completed.map Prod.fst := by
    intro used
    obtain ⟨⟨ticket, completion⟩, completed, rfl⟩ := List.mem_map.1 used
    exact untold (List.mem_map_of_mem (sound.told_of_ended ⟨ticket, written, completed⟩))
  exact ⟨entry, List.mem_map_of_mem (List.mem_filter.2 ⟨written, by simpa using uncompleted⟩), rfl⟩

/-- The callbacks not called yet are those of the writes that wait or are under way. -/
theorem Serial.untold_iff (serial : Serial journal flusher []) (sound : Sound journal flusher 0)
    (distinct : (journal.offered.map WriteEntry.callback).Nodup)
    {entry : WriteEntry Callback} (offered : entry ∈ journal.offered) :
    entry.callback ∉ journal.told.map Prod.fst ↔
      entry ∈ flusher.queue ∨ entry ∈ journal.uncompleted.map Prod.fst := by
  obtain ⟨-, untoldRest⟩ := sound.conserved.nodup_told distinct
  constructor
  · intro untold
    have account : entry.callback ∈
        (↑(journal.offered.map WriteEntry.callback) : Multiset Callback) :=
      Multiset.mem_coe.2 (List.mem_map_of_mem offered)
    rw [sound.conserved, Multiset.mem_add, Multiset.mem_add, Multiset.mem_add] at account
    rcases account with ((told | waiting) | current) | carried
    · exact absurd told untold
    · obtain ⟨other, member, callback⟩ := List.mem_map.1 (Multiset.mem_coe.1 waiting)
      obtain rfl := List.inj_on_of_nodup_map distinct
        (serial.queue_subset_offered sound member) offered callback
      exact .inl member
    · obtain ⟨other, under, callback⟩ := sound.uncompleted_of_current current untold
      obtain ⟨⟨other, ticket⟩, member, rfl⟩ := List.mem_map.1 under
      have otherOffered := serial.offered_of_written sound (List.mem_of_mem_filter member)
      obtain rfl := List.inj_on_of_nodup_map distinct otherOffered offered callback
      exact .inr under
    · exact absurd carried (Multiset.notMem_zero _)
  · rintro (waiting | under) told
    · refine untoldRest entry.callback ?_ told
      exact Multiset.mem_add.2 (.inl (Multiset.mem_add.2 (.inl (List.mem_map_of_mem waiting))))
    · obtain ⟨⟨entry, ticket⟩, member, rfl⟩ := List.mem_map.1 under
      obtain ⟨written, uncompleted⟩ := List.mem_filter.1 member
      obtain ⟨⟨callback, outcome⟩, told, rfl⟩ := List.mem_map.1 told
      by_cases refused : isRefusal outcome = true
      · exact (isRefusal_iff serial sound distinct offered told).1 refused
          (List.mem_map_of_mem written)
      · obtain ⟨completion, ⟨again, writtenAgain, completed⟩, -⟩ :=
          ended_of_told serial sound distinct offered told (by simpa using refused)
        obtain rfl := sound.ticket_unique (nodup_handed serial sound distinct) written writtenAgain
        simp only [decide_eq_true_eq] at uncompleted
        exact uncompleted (List.mem_map_of_mem completed)

/-- When nothing waits and nothing is under way, every callback has been called, once. -/
theorem Sound.told_perm_offered (sound : Sound journal flusher 0) (empty : flusher.queue = [])
    (completed : journal.uncompleted = []) :
    (journal.told.map Prod.fst).Perm (journal.offered.map WriteEntry.callback) := by
  have unused : flusher.outstanding = [] := by
    rw [← sound.ticketed.uncompleted_eq rfl, completed, List.map_nil]
  have owed := sound.settled.card_owed sound.ticketed
  rw [unused] at owed
  change flusher.current.toList.length + 0 = 0 at owed
  have free : flusher.current.toList = [] := List.eq_nil_of_length_eq_zero (by omega)
  have conserved := sound.conserved
  rw [Conserved, empty, free] at conserved
  exact (Multiset.coe_eq_coe.1 (by simpa [Cargo.callbacks_zero] using conserved)).symm

/-! ## The contract -/

/-- What those who offer writes can rely on. -/
structure CallbackContract [DecidableEq Callback] (journal : Journal Callback)
    (flusher : Flusher Callback) (stack : List (FlusherFrame Callback)) : Prop where
  once : (journal.told.map Prod.fst).Nodup
  /-- When the flusher has been left, what is still to be called waits or is under way. -/
  untold : stack = [] → journal.uncompleted.length ≤ 1 ∧
    ∀ entry ∈ journal.offered, entry.callback ∉ journal.told.map Prod.fst ↔
      entry ∈ flusher.queue ∨ entry ∈ journal.uncompleted.map Prod.fst
  /-- A callback is told what has become of its write. -/
  outcome : ∀ entry ∈ journal.offered, ∀ outcome, (entry.callback, outcome) ∈ journal.told →
    (outcome = .ok () ↔ journal.Ended entry (.ok ())) ∧
      (∀ cause, outcome = .error (.io cause) ↔ journal.Ended entry (.error cause)) ∧
        (outcome = .error .closed ↔ entry ∉ journal.written.map Prod.fst)
  /-- When the flusher has been left, every completion was passed on. -/
  told : stack = [] → ∀ entry completion, journal.Ended entry completion →
    (entry.callback, completion.outcome) ∈ journal.told
  /-- The callbacks of the writes that the endpoint got are called in the order of the offers. -/
  inOrder : (journal.told.map Prod.fst).filter
      (· ∈ journal.written.map fun write => write.1.callback) <+:
    journal.offered.map WriteEntry.callback

theorem Conserved.offered_of_told (conserved : Conserved journal flusher cargo)
    {callback : Callback} (told : callback ∈ journal.told.map Prod.fst) :
    ∃ entry ∈ journal.offered, entry.callback = callback := by
  have account : callback ∈ (↑(journal.offered.map WriteEntry.callback) : Multiset Callback) := by
    rw [conserved, add_assoc, add_assoc]
    exact Multiset.mem_add.2 (.inl (Multiset.mem_coe.2 told))
  exact List.mem_map.1 (Multiset.mem_coe.1 account)

/-- The callbacks told of writes that were handed over are those whose writes the endpoint got. -/
theorem map_settled [DecidableEq Callback] {stack : List (FlusherFrame Callback)}
    (serial : Serial journal flusher stack) (sound : Sound journal flusher ↑stack)
    (distinct : (journal.offered.map WriteEntry.callback).Nodup) :
    journal.settled.map Prod.fst = (journal.told.map Prod.fst).filter
      (· ∈ journal.written.map fun write => write.1.callback) := by
  rw [Journal.settled, List.filter_map]
  congr 1
  apply List.filter_congr
  rintro ⟨callback, outcome⟩ member
  obtain ⟨entry, offered, rfl⟩ := sound.conserved.offered_of_told (List.mem_map_of_mem member)
  have refused := isRefusal_iff serial sound distinct offered member
  have written : entry.callback ∈ journal.written.map (fun write => write.1.callback) ↔
      entry ∈ journal.written.map Prod.fst := by
    constructor
    · intro called
      obtain ⟨⟨other, ticket⟩, write, same⟩ := List.mem_map.1 called
      obtain rfl := List.inj_on_of_nodup_map distinct (serial.offered_of_written sound write)
        offered same
      exact List.mem_map_of_mem write
    · intro begun
      obtain ⟨write, there, rfl⟩ := List.mem_map.1 begun
      exact List.mem_map.2 ⟨write, there, rfl⟩
  change (!isRefusal outcome) = decide (entry.callback ∈ _)
  by_cases begun : entry ∈ journal.written.map Prod.fst
  · have kept : isRefusal outcome = false := by
      simpa using fun refusal => refused.1 refusal begun
    rw [kept, decide_eq_true (written.2 begun)]
    rfl
  · have refusal : isRefusal outcome = true := refused.2 begun
    rw [refusal, decide_eq_false fun called => begun (written.1 called)]
    rfl

/--
Callbacks keep their contract however the flusher is entered from inside its own calls. That the
callbacks are different from each other is to say that each was passed to the flusher once.
-/
theorem reentrant_callback_contract [DecidableEq Callback] {moves : List (FlusherMove Callback)}
    {stack : List (FlusherFrame Callback)}
    (run : Run (component Callback) Flusher.new [] moves flusher stack)
    (distinct : ((Journal.after moves).offered.map WriteEntry.callback).Nodup) :
    CallbackContract (Journal.after moves) flusher stack := by
  have sound := Sound.of_run run
  have serial := Serial.of_run run
  refine ⟨(sound.conserved.nodup_told distinct).1, fun empty => ?_,
    fun entry offered outcome told => outcome_iff serial sound distinct offered told,
    fun empty entry completion ended => ?_, ?_⟩
  · subst empty
    exact ⟨sound.length_uncompleted_le,
      fun entry offered => serial.untold_iff sound distinct offered⟩
  · subst empty
    exact sound.told_of_ended ended
  · rw [← map_settled serial sound distinct]
    obtain ⟨-, ⟨owed, -, callbacks⟩, -⟩ := sound.settled
    exact (List.prefix_append _ owed).trans
      (callbacks ▸ (serial.handed_prefix_offered sound).map WriteEntry.callback)

/-- The first write succeeds at once, the second is under way, and the third is refused. -/
def closeBehindPending : List (Choice (Request Nat) (Method Nat) fun _ => Unit) :=
  List.flatten
    [[.enter (.offer ⟨1, default, []⟩)], List.replicate 7 .proceed,
      [.enter (.complete 0 (.ok ()))], List.replicate 4 .proceed, [.finish fun _ => ()],
      List.replicate 2 .proceed, [.finish fun _ => ()], List.replicate 5 .proceed,
      [.enter (.offer ⟨2, default, []⟩)], List.replicate 7 .proceed,
      [.finish fun _ => (), .proceed, .enter (.offer ⟨3, default, []⟩)],
      List.replicate 3 .proceed, [.enter .close], List.replicate 4 .proceed,
      [.finish fun _ => (), .proceed]]

theorem contract_after_closeBehindPending :
    let trace := Trace.follow (component Nat) Flusher.new closeBehindPending
    trace.stack = [] ∧ (Journal.after trace.moves).told = [(1, .ok ()), (3, .error .closed)] ∧
      CallbackContract (Journal.after trace.moves) trace.state trace.stack := by
  have run := Trace.run_follow (component Nat) Flusher.new closeBehindPending
  refine ⟨rfl, rfl, ?_⟩
  apply reentrant_callback_contract run
  decide

end DatagramMux.Flusher
