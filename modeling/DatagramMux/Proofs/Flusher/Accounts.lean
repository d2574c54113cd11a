import DatagramMux.Proofs.Flusher.Tickets
import Mathlib.Tactic.Abel

/-!
# Callbacks and their outcomes

Every callback that was offered is somewhere: it was called, or its entry waits, or it is in the slot
for the current callback, or some frame is about to deal with it. The callbacks of the writes that
were handed over are called in the order of these writes, each with the outcome that was reported
for its write; a callback is told of a refusal only if its write was never handed over.
-/

namespace DatagramMux.Flusher

open Component

variable {Callback : Type}

theorem isRefusal_outcome (completion : Completion) : isRefusal completion.outcome = false := by
  cases completion <;> rfl

/-- The outcomes that callbacks were told agree with those that were reported. -/
structure Settled (journal : Journal Callback) (flusher : Flusher Callback)
    (cargo : Cargo Callback) : Prop where
  answers : ∃ answers : List Outcome, ↑answers = cargo.answers ∧
    journal.completed.map (fun completed => completed.2.outcome) =
      journal.settled.map Prod.snd ++ answers
  owed : ∃ owed : List Callback, ↑owed = ↑flusher.current.toList + cargo.settling ∧
    journal.handed.map WriteEntry.callback = journal.settled.map Prod.fst ++ owed
  refused : ∀ refusal ∈ cargo.refused, isRefusal refusal.2 = true

/-- The callbacks that are carried. -/
def Cargo.callbacks (cargo : Cargo Callback) : Multiset Callback :=
  cargo.submitting.map WriteEntry.callback + cargo.passing.map WriteEntry.callback +
    cargo.settling + cargo.refused.map Prod.fst

theorem Cargo.callbacks_zero : (0 : Cargo Callback).callbacks = 0 := rfl

theorem Cargo.callbacks_add (first second : Cargo Callback) :
    (first + second).callbacks = first.callbacks + second.callbacks := by
  rw [callbacks, submitting_add, passing_add, settling_add, refused_add]
  simp only [callbacks, Multiset.map_add]
  abel

/-- Every callback that was offered is accounted for. -/
def Conserved (journal : Journal Callback) (flusher : Flusher Callback)
    (cargo : Cargo Callback) : Prop :=
  (↑(journal.offered.map WriteEntry.callback) : Multiset Callback) =
    ↑(journal.told.map Prod.fst) + ↑(flusher.queue.map WriteEntry.callback) +
      ↑flusher.current.toList + cargo.callbacks

namespace Settled

variable {journal : Journal Callback} {flusher next : Flusher Callback}
variable {move : FlusherMove Callback} {before after others : Cargo Callback}

/-- As many callbacks are owed as there are unused tickets and pending answers. -/
theorem card_owed {cargo : Cargo Callback} (ticketed : Ticketed journal flusher cargo)
    (settled : Settled journal flusher cargo) :
    flusher.current.toList.length + cargo.settling.card =
      flusher.outstanding.length + cargo.answers.card := by
  obtain ⟨⟨answers, answered, reported⟩, ⟨owed, owes, callbacks⟩, -⟩ := settled
  have tickets := congrArg List.length ticketed.used
  have reports := congrArg List.length reported
  have handed := congrArg List.length callbacks
  rw [← Multiset.coe_card flusher.current.toList, ← Multiset.card_add, ← owes, ← answered]
  simp only [List.length_append, List.length_map, List.length_range, Multiset.coe_card] at *
  omega

theorem deal (bounded : Bounded flusher (before + others))
    (certain : others.settling.card ≤ others.answers.card)
    (ticketed : Ticketed journal flusher (before + others))
    (deal : Deal flusher move before next after)
    (settled : Settled journal flusher (before + others)) :
    Settled (journal.record move) next (after + others) := by
  have card_owed := settled.card_owed ticketed
  obtain ⟨-, awaiting⟩ := bounded
  obtain ⟨⟨answers, answered, reported⟩, ⟨owed, owes, callbacks⟩, refused⟩ := settled
  cases deal with
  | plain _ _ _ silent _ current =>
      rw [silent]
      exact ⟨⟨answers, answered, reported⟩, ⟨owed, current ▸ owes, callbacks⟩, refused⟩
  | offer | enqueue | take | commit | write =>
      exact ⟨⟨answers, answered, reported⟩, ⟨owed, owes, callbacks⟩, refused⟩
  | turnAway entry terminated =>
      refine ⟨⟨answers, answered, reported⟩, ⟨owed, owes, callbacks⟩, fun told member => ?_⟩
      rcases Multiset.mem_add.1 member with new | old
      · rw [Multiset.mem_singleton.1 new]
        rfl
      · exact refused told (by simpa using old)
  | drain report =>
      refine ⟨⟨answers, answered, reported⟩, ⟨owed, owes, callbacks⟩, fun told member => ?_⟩
      rcases Multiset.mem_add.1 member with new | old
      · obtain ⟨entry, -, rfl⟩ := List.mem_map.1 (Multiset.mem_coe.1 new)
        rfl
      · exact refused told (by simpa using old)
  | hand entry =>
      simp only [Cargo.passing_add, Cargo.answers_add, Cargo.settling_add, Multiset.card_add,
        Multiset.card_singleton, Multiset.card_zero] at awaiting card_owed
      have free : flusher.current.toList = [] := List.eq_nil_of_length_eq_zero (by omega)
      have clear : others.settling = 0 := Multiset.card_eq_zero.1 (by omega)
      obtain rfl : owed = [] := (Multiset.coe_eq_zero _).1 (by simpa [free, clear] using owes)
      refine ⟨⟨answers, answered, reported⟩, ⟨[entry.callback], by simp [clear], ?_⟩, refused⟩
      simp only [Journal.record, List.map_append, List.map_singleton, callbacks, List.append_nil]
      rfl
  | redeem ticket completion unused =>
      have length := List.length_pos_of_mem unused
      simp only [Cargo.answers_add, Multiset.card_add] at awaiting
      have clear : others.answers = 0 := Multiset.card_eq_zero.1 (by omega)
      obtain rfl : answers = [] := (Multiset.coe_eq_zero _).1 (by simpa [clear] using answered)
      rw [ticketed.record_redeem, if_pos unused]
      refine ⟨⟨[completion.outcome], by simp [clear], ?_⟩, ⟨owed, owes, callbacks⟩, refused⟩
      simp only [List.map_append, List.map_singleton, reported, List.append_nil]
      rfl
  | stale ticket completion spent =>
      rw [ticketed.record_redeem, if_neg spent]
      exact ⟨⟨answers, answered, reported⟩, ⟨owed, owes, callbacks⟩, refused⟩
  | collect callback completion current =>
      refine ⟨⟨answers, answered, reported⟩, ⟨owed, ?_, callbacks⟩, refused⟩
      simpa [current] using owes
  | miss completion current =>
      -- The slot is only empty when no answer is due.
      simp only [Cargo.answers_add, Cargo.settling_add, Multiset.card_add, Multiset.card_singleton,
        Multiset.card_zero, current, Option.toList_none, List.length_nil] at awaiting card_owed
      omega
  | tell callback outcome following =>
      simp only [Cargo.answers_add, Cargo.settling_add, Multiset.card_add,
        Multiset.card_singleton] at awaiting card_owed
      have clear : others.answers = 0 := Multiset.card_eq_zero.1 (by omega)
      have done : others.settling = 0 := Multiset.card_eq_zero.1 (by omega)
      have free : flusher.current.toList = [] := List.eq_nil_of_length_eq_zero (by omega)
      obtain rfl : answers = [outcome] :=
        Multiset.coe_eq_singleton.1 (by simpa [clear] using answered)
      obtain rfl : owed = [callback] :=
        Multiset.coe_eq_singleton.1 (by simpa [free, done] using owes)
      have kept : isRefusal outcome = false := by
        have member : outcome ∈ journal.completed.map fun completed => completed.2.outcome := by
          rw [reported]
          simp
        obtain ⟨completed, -, rfl⟩ := List.mem_map.1 member
        exact isRefusal_outcome completed.2
      have settled : (journal.record (.begin (.notify callback outcome following))).settled =
          journal.settled ++ [(callback, outcome)] := by
        simp [Journal.settled, Journal.record, kept]
      refine ⟨⟨[], by simp [clear], ?_⟩, ⟨[], by simp [free, done], ?_⟩, refused⟩
      · rw [settled, List.map_append, List.append_nil]
        exact reported
      · rw [settled, List.map_append, List.append_nil]
        exact callbacks
  | refuse callback outcome following =>
      have refusal : isRefusal outcome = true := refused (callback, outcome) (by simp)
      have settled : (journal.record (.begin (.notify callback outcome following))).settled =
          journal.settled := by
        simp [Journal.settled, Journal.record, refusal]
      refine ⟨⟨answers, by simpa using answered, ?_⟩, ⟨owed, by simpa using owes, ?_⟩,
        fun told member => refused told ?_⟩
      · rw [settled]
        exact reported
      · rw [settled]
        exact callbacks
      · rw [add_assoc, Cargo.refused_add]
        exact Multiset.mem_add.2 (.inr member)

end Settled

/-- Callbacks are neither lost nor made up, provided that the slot is free when it is filled. -/
theorem Conserved.deal {journal : Journal Callback} {flusher next : Flusher Callback}
    {move : FlusherMove Callback} {before after others : Cargo Callback}
    (deal : Deal flusher move before next after)
    (free : ∀ entry, move = .work (.hand entry) → flusher.current = none)
    (answered : ∀ completion, move = .work (.collect completion) → flusher.current ≠ none)
    (conserved : Conserved journal flusher (before + others)) :
    Conserved (journal.record move) next (after + others) := by
  unfold Conserved at conserved ⊢
  rw [Cargo.callbacks_add] at conserved ⊢
  cases deal with
  | plain _ _ _ silent queue current =>
      rw [silent, queue, current]
      exact conserved
  | offer entry =>
      have carried : ({ submitting := {entry} } : Cargo Callback).callbacks = {entry.callback} := by
        simp [Cargo.callbacks]
      rw [Cargo.callbacks_zero] at conserved
      simp only [Journal.record, List.map_append, List.map_singleton, ← Multiset.coe_add,
        conserved, carried, Multiset.coe_singleton]
      abel
  | enqueue entry =>
      have carried : ({ submitting := {entry} } : Cargo Callback).callbacks = {entry.callback} := by
        simp [Cargo.callbacks]
      simp only [Journal.record, List.map_append, List.map_singleton, ← Multiset.coe_add,
        conserved, carried, Cargo.callbacks_zero, Multiset.coe_singleton]
      abel
  | take entry rest queue =>
      have carried : ({ passing := {entry} } : Cargo Callback).callbacks = {entry.callback} := by
        simp [Cargo.callbacks]
      simp only [queue, List.map_cons, ← Multiset.cons_coe, ← Multiset.singleton_add,
        Cargo.callbacks_zero] at conserved
      simp only [Journal.record, conserved, carried]
      abel
  | turnAway entry =>
      have carried : ({ passing := {entry} } : Cargo Callback).callbacks =
          ({ refused := {refusal entry} } : Cargo Callback).callbacks := by
        simp [Cargo.callbacks, refusal]
      simpa only [Journal.record, carried] using conserved
  | commit entry => exact conserved
  | hand entry =>
      have carried : ({ passing := {entry}, committed := {entry} } : Cargo Callback).callbacks =
          {entry.callback} := by
        simp [Cargo.callbacks]
      have placed : ({ calling := {(entry, flusher.handed)} } : Cargo Callback).callbacks = 0 := rfl
      simp only [free entry rfl, carried, Option.toList_none, Multiset.coe_nil] at conserved
      simp only [Journal.record, conserved, placed, Option.toList_some, Multiset.coe_singleton]
      abel
  | write entry ticket => exact conserved
  | redeem ticket completion | stale ticket completion =>
      obtain ⟨completed, recorded⟩ := journal.exists_record_redeem ticket completion
      rw [recorded]
      exact conserved
  | collect callback completion current =>
      have carried : ({ answers := {completion.outcome} } : Cargo Callback).callbacks = 0 := rfl
      have placed : ({ answers := {completion.outcome}, settling := {callback} } :
          Cargo Callback).callbacks = {callback} := by
        simp [Cargo.callbacks]
      simp only [current, carried, Option.toList_some, Multiset.coe_singleton] at conserved
      simp only [Journal.record, conserved, placed, Option.toList_none, Multiset.coe_nil]
      abel
  | miss completion current => exact absurd current (answered completion rfl)
  | tell callback outcome following =>
      have carried : ({ answers := {outcome}, settling := {callback} } :
          Cargo Callback).callbacks = {callback} := by
        simp [Cargo.callbacks]
      simp only [Journal.record, List.map_append, List.map_singleton, ← Multiset.coe_add,
        conserved, carried, Cargo.callbacks_zero, Multiset.coe_singleton]
      abel
  | refuse callback outcome following =>
      have carried : ({ refused := {(callback, outcome)} } : Cargo Callback).callbacks =
          {callback} := by
        simp [Cargo.callbacks]
      simp only [Journal.record, List.map_append, List.map_singleton, ← Multiset.coe_add,
        conserved, carried, Cargo.callbacks_add, Multiset.coe_singleton]
      abel
  | drain report =>
      have placed : ({ refused := flusher.queue.map refusal } : Cargo Callback).callbacks =
          ↑(flusher.queue.map WriteEntry.callback) := by
        simp only [Cargo.callbacks, Multiset.map_zero, zero_add, Multiset.map_coe, List.map_map]
        rfl
      simp only [Journal.record, conserved, placed, Cargo.callbacks_zero, List.map_nil,
        Multiset.coe_nil]
      abel

theorem settled_new : Settled {} (Flusher.new : Flusher Callback) 0 :=
  ⟨⟨[], rfl, rfl⟩, ⟨[], rfl, rfl⟩, fun _ member => absurd member (Multiset.notMem_zero _)⟩

theorem conserved_new : Conserved {} (Flusher.new : Flusher Callback) 0 := rfl

end DatagramMux.Flusher
