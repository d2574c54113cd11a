import DatagramMux.Proofs.Flusher.Callbacks
import DatagramMux.Proofs.Flusher.Failure
import DatagramMux.Proofs.Machine.Projection
import Mathlib.Data.List.Induction

/-!
# Which writes succeed

An endpoint that reports each write at most once, and only after it was given the write, is heard:
all that it reports is noted. Since nothing is handed over after a failure, the writes that succeed
are the first ones that were offered, and their callbacks are told so in this order.
-/

namespace DatagramMux.Flusher

open Component

variable {Callback : Type}

/-! ## What the endpoint is given and reports -/

/-- The write that a call to the endpoint begins. -/
def written? : FlusherMove Callback → Option (WriteEntry Callback × Nat)
  | .begin (.write ticket entry) => some (entry, ticket)
  | _ => none

theorem Journal.written_after (moves : List (FlusherMove Callback)) :
    (Journal.after moves).written = moves.filterMap written? := by
  induction moves using List.reverseRecOn with
  | nil => rfl
  | append_singleton moves move ih =>
      rw [after_append_singleton, List.filterMap_append, filterMap_singleton, ← ih]
      cases move with
      | work task =>
          cases task with
          | redeem ticket completion =>
              obtain ⟨completed, recorded⟩ :=
                (Journal.after moves).exists_record_redeem ticket completion
              rw [recorded]
              exact (List.append_nil _).symm
          | _ => exact (List.append_nil _).symm
      | begin request => cases request <;> first | rfl | exact (List.append_nil _).symm
      | finish request reply => exact (List.append_nil _).symm
      | enter method => cases method <;> exact (List.append_nil _).symm

def completion? : FlusherMove Callback → Option (Nat × Completion)
  | .enter (.complete ticket completion) => some (ticket, completion)
  | _ => none

/-- What was reported with the tickets, whether it was noted or not. -/
def completions (moves : List (FlusherMove Callback)) : List (Nat × Completion) :=
  moves.filterMap completion?

theorem completions_concat (moves : List (FlusherMove Callback)) (move : FlusherMove Callback) :
    completions (moves ++ [move]) = completions moves ++ (completion? move).toList := by
  rw [completions, List.filterMap_append, filterMap_singleton, completions]

/-- The use of a ticket that a frame is about to make. -/
def redeeming? : FlusherFrame Callback → Option (Nat × Completion)
  | .task (.redeem ticket completion) => some (ticket, completion)
  | _ => none

theorem filterMap_redeem (ticket : Nat) (completion : Completion)
    (rest : List (FlusherFrame Callback)) :
    (.task (.redeem ticket completion) :: rest).filterMap redeeming? =
      (ticket, completion) :: rest.filterMap redeeming? := rfl

theorem redeeming?_of_isInside {frames : List (FlusherFrame Callback)}
    (under : ∀ frame ∈ frames, frame.isInside = true) : frames.filterMap redeeming? = [] := by
  rw [List.filterMap_eq_nil_iff]
  intro frame member
  have inside := under frame member
  cases frame with
  | task task => cases inside
  | call request => rfl
  | inside request => rfl

theorem redeeming?_of_follows {task : Task Callback} (follows : task.follows = true) :
    redeeming? (.task task) = none := by
  cases task <;> first | rfl | cases follows

theorem redeeming?_step (flusher : Flusher Callback) (task : Task Callback) :
    (step flusher task).2.filterMap redeeming? = [] := by
  fun_cases step flusher task with
  | case33 completion => cases completion <;> rfl
  | case46 report => cases report <;> rfl
  | _ => rfl

theorem handed_prefix_record (journal : Journal Callback) (move : FlusherMove Callback) :
    journal.handed <+: (journal.record move).handed := by
  cases move with
  | work task =>
      cases task with
      | hand entry => exact List.prefix_append _ _
      | redeem ticket completion =>
          obtain ⟨completed, recorded⟩ := journal.exists_record_redeem ticket completion
          rw [recorded]
      | _ => exact List.prefix_rfl
  | begin request => cases request <;> exact List.prefix_rfl
  | finish request reply => exact List.prefix_rfl
  | enter method => cases method <;> exact List.prefix_rfl

/-- Whether a report is the first one for a write, and comes after the write was handed over. -/
def Timely (moves : List (FlusherMove Callback)) (ticket : Nat) : Prop :=
  ticket < (Journal.after moves).handed.length ∧ ticket ∉ (completions moves).map Prod.fst

/-- All that was reported was noted, or is about to be noted. -/
structure Heard (moves : List (FlusherMove Callback)) (stack : List (FlusherFrame Callback)) :
    Prop where
  all : (Journal.after moves).completed ++ stack.filterMap redeeming? = completions moves
  once : ((completions moves).map Prod.fst).Nodup
  handed : ∀ ticket ∈ (completions moves).map Prod.fst,
    ticket < (Journal.after moves).handed.length

namespace Heard

variable {moves : List (FlusherMove Callback)} {move : FlusherMove Callback}
variable {flusher next : Flusher Callback} {stack nextStack : List (FlusherFrame Callback)}

theorem silent (quiet : completion? move = none)
    (noted : (Journal.after (moves ++ [move])).completed ++ nextStack.filterMap redeeming? =
      (Journal.after moves).completed ++ stack.filterMap redeeming?)
    (heard : Heard moves stack) : Heard (moves ++ [move]) nextStack := by
  obtain ⟨all, once, handed⟩ := heard
  have same : completions (moves ++ [move]) = completions moves := by
    rw [completions_concat, quiet, Option.toList_none, List.append_nil]
  refine ⟨?_, ?_, fun ticket member => ?_⟩
  · rw [same, noted, all]
  · rw [same]
    exact once
  · rw [same] at member
    rw [Journal.after_append_singleton]
    exact (handed ticket member).trans_le (handed_prefix_record _ move).length_le

/-- A report that is about to be noted will be, since it is the first one for its write. -/
theorem redeem {ticket : Nat} {completion : Completion} {rest : List (FlusherFrame Callback)}
    (under : rest.filterMap redeeming? = [])
    (heard : Heard moves (.task (.redeem ticket completion) :: rest)) :
    (Journal.after (moves ++ [.work (.redeem ticket completion)])).completed =
      (Journal.after moves).completed ++ [(ticket, completion)] := by
  obtain ⟨all, once, handed⟩ := heard
  rw [filterMap_redeem, under] at all
  rw [← all, List.map_append] at once
  have fresh : ticket ∉ (Journal.after moves).completed.map Prod.fst := by
    intro used
    exact List.disjoint_of_nodup_append once used (List.mem_singleton_self ticket)
  have given : ticket < (Journal.after moves).handed.length := by
    apply handed
    rw [← all, List.map_append]
    exact List.mem_append_right _ (List.mem_singleton_self ticket)
  rw [Journal.after_append_singleton, Journal.record, if_pos ⟨given, fresh⟩]

theorem work {task : Task Callback} {rest : List (FlusherFrame Callback)}
    (under : rest.filterMap redeeming? = []) (heard : Heard moves (.task task :: rest)) :
    Heard (moves ++ [.work task]) ((Flusher.step flusher task).2 ++ rest) := by
  refine heard.silent rfl ?_
  rw [List.filterMap_append, redeeming?_step, under, List.nil_append, List.append_nil]
  cases task with
  | redeem ticket completion =>
      rw [heard.redeem under, filterMap_redeem, under]
  | _ =>
      rw [Journal.after_append_singleton, List.filterMap_cons_none rfl, under, List.append_nil]
      rfl

theorem step (nested : Nested flusher stack)
    (step : Step (component Callback) flusher stack move next nextStack)
    (timely : ∀ ticket completion, move = .enter (.complete ticket completion) →
      Timely moves ticket)
    (heard : Heard moves stack) : Heard (moves ++ [move]) nextStack := by
  cases step with
  | work task rest free =>
      exact heard.work (redeeming?_of_isInside fun frame member => (nested.below frame member).1)
  | «begin» request rest =>
      refine heard.silent rfl ?_
      rw [Journal.after_append_singleton, List.filterMap_cons_none rfl,
        List.filterMap_cons_none rfl]
      cases request <;> rfl
  | finish request reply rest =>
      refine heard.silent rfl ?_
      rw [Journal.after_append_singleton]
      cases request with
      | write | failure => rfl
      | notify callback outcome following =>
          have silent := redeeming?_of_follows (nested.top _ rfl)
          change _ ++ (.task following :: rest).filterMap redeeming? = _
          rw [List.filterMap_cons_none silent]
          rfl
  | enter method stack enterable =>
      cases method with
      | offer | iterate | close =>
          refine heard.silent rfl ?_
          rw [Journal.after_append_singleton]
          rfl
      | complete ticket completion =>
          have under : stack.filterMap redeeming? = [] :=
            redeeming?_of_isInside fun frame member => (nested.of_enterable enterable frame member).1
          obtain ⟨given, fresh⟩ := timely ticket completion rfl
          obtain ⟨all, once, handed⟩ := heard
          have more : completions (moves ++ [.enter (.complete ticket completion)]) =
              completions moves ++ [(ticket, completion)] := completions_concat moves _
          rw [under, List.append_nil] at all
          refine ⟨?_, ?_, ?_⟩
          · rw [more, ← all, Journal.after_append_singleton]
            change _ ++ (.task (.redeem ticket completion) :: stack).filterMap redeeming? = _
            rw [filterMap_redeem, under]
            rfl
          · rw [more, List.map_append, List.nodup_append_comm]
            exact List.nodup_cons.2 ⟨fresh, once⟩
          · rw [more, List.map_append, Journal.after_append_singleton]
            intro other member
            rcases List.mem_append.1 member with old | new
            · exact handed other old
            · obtain rfl := List.mem_singleton.1 new
              exact given

theorem run {further : List (FlusherMove Callback)} (nested : Nested flusher stack)
    (onward : Run (component Callback) flusher stack further next nextStack)
    (timely : ∀ earlier ticket completion,
      earlier ++ [.enter (.complete ticket completion)] <+: further →
        Timely (moves ++ earlier) ticket)
    (heard : Heard moves stack) : Heard (moves ++ further) nextStack := by
  induction onward with
  | refl =>
      rw [List.append_nil]
      exact heard
  | tail before step ih =>
      rw [← List.append_assoc]
      refine (ih nested ?_ heard).step (before.invariant Nested.step nested) step ?_
      · intro earlier ticket completion first
        exact timely earlier ticket completion (first.trans (List.prefix_append _ _))
      · rintro ticket completion rfl
        exact timely _ ticket completion List.prefix_rfl

theorem start : Heard ([] : List (FlusherMove Callback)) [] :=
  ⟨rfl, List.nodup_nil, fun _ member => (nomatch member)⟩

end Heard

/-! ## The first writes succeed -/

/-- If those that pass come before those that do not, passing is being among the first. -/
theorem filter_eq_take {Value : Type} {passes : Value → Bool} {values : List Value} {good bad : Nat}
    (flags : values.map passes = List.replicate good true ++ List.replicate bad false) :
    values.filter passes = values.take good := by
  have first : (values.take good).map passes = List.replicate good true := by
    rw [List.map_take, flags, List.take_left' List.length_replicate]
  have later : (values.drop good).map passes = List.replicate bad false := by
    rw [List.map_drop, flags, List.drop_left' List.length_replicate]
  have kept : (values.take good).filter passes = values.take good := by
    rw [List.filter_eq_self]
    intro value member
    exact List.eq_of_mem_replicate (first ▸ List.mem_map_of_mem member)
  have dropped : (values.drop good).filter passes = [] := by
    rw [List.filter_eq_nil_iff]
    intro value member
    have fails : passes value = false :=
      List.eq_of_mem_replicate (later ▸ List.mem_map_of_mem member)
    rw [fails]
    exact Bool.false_ne_true
  calc values.filter passes
      = (values.take good ++ values.drop good).filter passes := by rw [List.take_append_drop]
    _ = values.take good := by rw [List.filter_append, kept, dropped, List.append_nil]

theorem successes_eq_take {Key Cause : Type} {reports : List (Key × Except Cause Unit)}
    {good bad : Nat} (flags : reports.map (fun report => report.2.isOk) =
      List.replicate good true ++ List.replicate bad false) :
    successes reports = (reports.map Prod.fst).take good := by
  rw [successes, filter_eq_take flags, List.map_take]

section Left

variable {journal : Journal Callback} {flusher : Flusher Callback}
variable {frames : Multiset (FlusherFrame Callback)}

theorem Ticketed.completed_eq {cargo : Cargo Callback} (ticketed : Ticketed journal flusher cargo) :
    journal.completed.length ≤ journal.handed.length ∧
      journal.completed.map Prod.fst = List.range journal.completed.length := by
  have lengths := congrArg List.length ticketed.used
  rw [List.length_append, List.length_map, List.length_range] at lengths
  refine ⟨by omega, ?_⟩
  have first := congrArg (List.take journal.completed.length) ticketed.used
  rw [List.take_left' (List.length_map Prod.fst), List.take_range] at first
  rw [first, Nat.min_eq_left (by omega)]

/-- Only the last completion can be that of a failed write. -/
theorem Final.flags (final : Final journal flusher frames) (sound : Sound journal flusher frames) :
    ∃ good bad, journal.completed.map (fun completed => completed.2.isOk) =
      List.replicate good true ++ List.replicate bad false := by
  obtain ⟨length, -⟩ := sound.ticketed.completed_eq
  rcases List.eq_nil_or_concat journal.completed with none | ⟨before, last, split⟩
  · exact ⟨0, 0, by rw [none]; rfl⟩
  · have flawless : before.map (fun completed => completed.2.isOk) =
        List.replicate before.length true := by
      rw [List.eq_replicate_iff]
      refine ⟨List.length_map _, fun flag member => ?_⟩
      obtain ⟨⟨ticket, cause | ⟨⟩⟩, completed, rfl⟩ := List.mem_map.1 member
      · obtain ⟨position, found⟩ := List.mem_iff_getElem?.1 completed
        have within := (List.getElem?_eq_some_iff.1 found).1
        have foundAll : journal.completed[position]? = some (ticket, .error cause) := by
          rw [split, List.concat_eq_append, List.getElem?_append_left within, found]
        have last := (final ticket cause (List.mem_of_getElem? foundAll)).1
        have position := sound.ticketed.ticket_eq foundAll
        rw [split, List.length_concat] at length
        simp only at position
        omega
      · rfl
    obtain ⟨ticket, cause | ⟨⟩⟩ := last
    · exact ⟨before.length, 1, by rw [split, List.concat_eq_append, List.map_append, flawless]; rfl⟩
    · refine ⟨before.length + 1, 0, ?_⟩
      rw [split, List.concat_eq_append, List.map_append, flawless, List.replicate_succ']
      simp [Except.isOk, Except.toBool]

theorem successes_settled (journal : Journal Callback) :
    successes journal.settled = successes journal.told := by
  have kept (told : Callback × Outcome) :
      (told.2.isOk && !isRefusal told.2) = told.2.isOk := by
    obtain ⟨callback, error | ⟨⟩⟩ := told <;> rfl
  rw [successes, Journal.settled, List.filter_filter, successes]
  simp only [kept]

/-- When the flusher has been left, callbacks are told of success just as it was reported. -/
theorem Settled.flags {cargo : Cargo Callback} (settled : Settled journal flusher cargo)
    (answered : cargo.answers = 0) :
    journal.settled.map (fun told => told.2.isOk) =
      journal.completed.map fun completed => completed.2.isOk := by
  obtain ⟨⟨answers, pending, reported⟩, -, -⟩ := settled
  obtain rfl : answers = [] := (Multiset.coe_eq_zero _).1 (pending.trans answered)
  rw [List.append_nil] at reported
  have flags := congrArg (List.map Except.isOk) reported
  rw [List.map_map, List.map_map] at flags
  have same : (Except.isOk ∘ fun completed : Nat × Completion => completed.2.outcome) =
      fun completed => completed.2.isOk := by
    funext completed
    obtain ⟨ticket, cause | ⟨⟩⟩ := completed <;> rfl
  rw [same] at flags
  exact flags.symm

theorem filter_mem_map {Value Key : Type} [DecidableEq Key] {key : Value → Key}
    {some all : List Value} (distinct : (all.map key).Nodup) (first : some <+: all) :
    all.filter (fun value => key value ∈ some.map key) = some := by
  obtain ⟨others, rfl⟩ := first
  rw [List.map_append] at distinct
  have kept : some.filter (fun value => key value ∈ some.map key) = some := by
    rw [List.filter_eq_self]
    intro value member
    exact decide_eq_true (List.mem_map_of_mem member)
  have dropped : others.filter (fun value => key value ∈ some.map key) = [] := by
    rw [List.filter_eq_nil_iff]
    intro value member found
    exact List.disjoint_of_nodup_append distinct (of_decide_eq_true found)
      (List.mem_map_of_mem member)
  rw [List.filter_append, kept, dropped, List.append_nil]

/--
When the flusher has been left, the writes that succeeded are the first ones that were handed over,
and their callbacks were told so in this order.
-/
theorem first_succeed (sound : Sound journal flusher 0) (final : Final journal flusher 0) :
    ∃ succeeded, succeeded <+: journal.handed ∧
      successes journal.completed = List.range succeeded.length ∧
        successes journal.told = succeeded.map WriteEntry.callback := by
  -- Tickets are given out and noted in order, so the first completions are those of the first writes.
  obtain ⟨good, bad, flags⟩ := final.flags sound
  obtain ⟨length, tickets⟩ := sound.ticketed.completed_eq
  have few : good ≤ journal.completed.length := by
    have lengths := congrArg List.length flags
    rw [List.length_map, List.length_append, List.length_replicate] at lengths
    omega
  have settledFlags := sound.settled.flags rfl
  have toldAll : journal.settled.length = journal.completed.length := by
    simpa using congrArg List.length settledFlags
  obtain ⟨-, ⟨owed, -, callbacks⟩, -⟩ := sound.settled
  refine ⟨journal.handed.take good, List.take_prefix good journal.handed, ?_, ?_⟩
  · rw [successes_eq_take flags, tickets, List.take_range, Nat.min_eq_left few,
      List.length_take, Nat.min_eq_left (few.trans length)]
  · rw [← successes_settled, successes_eq_take (settledFlags.trans flags), List.map_take, callbacks,
      List.take_append_of_le_length (by rw [List.length_map, toldAll]; exact few)]

end Left

end DatagramMux.Flusher
