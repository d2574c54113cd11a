import DatagramMux.Proofs.Flusher.Deal

/-!
# First come, first served

Until the flusher is terminated, the writes that were handed over, the one that is on its way to the
endpoint and those that wait are, in this order, all writes that were queued. Afterwards at most the
write that was already certain to be handed over still is.
-/

namespace DatagramMux.Flusher

open Component

variable {Callback : Type}

/-- The queue agrees with the journal. -/
structure InLine (journal : Journal Callback) (flusher : Flusher Callback)
    (cargo : Cargo Callback) : Prop where
  handed : journal.handed <+: journal.queued
  committed : ∀ entry ∈ cargo.committed, journal.handed ++ [entry] <+: journal.queued
  waiting : flusher.phase ≠ .terminated →
    ∃ passing : List (WriteEntry Callback),
      ↑passing = cargo.passing ∧ journal.handed ++ passing ++ flusher.queue = journal.queued

/-- What the roles of the frames tell about a move and the cargo that it leaves alone. -/
structure Orderly (flusher next : Flusher Callback) (move : FlusherMove Callback)
    (others : Cargo Callback) : Prop where
  /-- The flusher does not come back from termination. -/
  final : next.phase ≠ .terminated → flusher.phase ≠ .terminated
  /-- The one who takes an entry from the queue is the only one. -/
  alone : move = .work .take → others.passing = 0
  /-- The queue is emptied after termination only. -/
  late : ∀ report, move = .work (.drain report) → flusher.phase = .terminated
  certain : others.committed.card ≤ others.passing.card

theorem Turn.terminated {unused unusedNext : Nat} {role roleNext : Option Role} {next : Phase}
    (turn : Turn .terminated unused role next unusedNext roleNext) : next = .terminated := by
  cases turn <;> rfl

theorem Owned.orderly {flusher next : Flusher Callback} {move taken put}
    {rest : Multiset (FlusherFrame Callback)}
    (exchange : Exchange (component Callback) flusher move taken next put)
    (owned : Owned flusher (↑taken + rest)) : Orderly flusher next move (total cargo rest) := by
  obtain ⟨passing, -, -, -, committed⟩ := within_total rest
  have turn := exchange_turn exchange
  simp only [Owned, awaited, inRole_add (length_exchange_le exchange).1] at owned
  refine ⟨fun alive terminated => ?_, fun taking => ?_, fun report draining => ?_, committed⟩
  · rw [terminated] at turn
    exact alive turn.terminated
  · subst taking
    cases exchange
    have none : inRole .preparing rest = 0 := by
      unfold Phase.Admits at owned
      split at owned <;> simp [headRole, role, Task.role, Role.share] at owned <;> omega
    exact Multiset.card_eq_zero.1 (by omega)
  · subst draining
    cases exchange
    unfold Phase.Admits at owned
    split at owned <;> simp [headRole, role, Task.role, Role.share] at owned
    assumption

theorem InLine.deal {journal : Journal Callback} {flusher next : Flusher Callback}
    {move : FlusherMove Callback} {before after others : Cargo Callback}
    (bounded : Bounded flusher (before + others)) (orderly : Orderly flusher next move others)
    (deal : Deal flusher move before next after)
    (inLine : InLine journal flusher (before + others)) :
    InLine (journal.record move) next (after + others) := by
  obtain ⟨handing, -⟩ := bounded
  obtain ⟨final, alone, late, certain⟩ := orderly
  obtain ⟨handed, committed, waiting⟩ := inLine
  cases deal with
  | plain _ _ _ silent queue =>
      rw [silent]
      exact ⟨handed, committed, fun alive => queue ▸ waiting (final alive)⟩
  | offer | write | collect | miss | tell => exact ⟨handed, committed, waiting⟩
  | refuse =>
      exact ⟨handed, by simpa [Journal.record] using committed,
        by simpa [Journal.record] using waiting⟩
  | redeem ticket completion | stale ticket completion =>
      obtain ⟨completed, recorded⟩ := journal.exists_record_redeem ticket completion
      rw [recorded]
      exact ⟨handed, by simpa using committed, by simpa using waiting⟩
  | enqueue entry =>
      refine ⟨handed.trans (List.prefix_append _ _), fun other member => ?_, fun alive => ?_⟩
      · exact (committed other member).trans (List.prefix_append _ _)
      · obtain ⟨passing, passes, line⟩ := waiting alive
        refine ⟨passing, passes, ?_⟩
        simp only [Journal.record, ← line, List.append_assoc]
  | take entry rest queue =>
      refine ⟨handed, committed, fun alive => ?_⟩
      obtain ⟨passing, passes, line⟩ := waiting alive
      have none := alone rfl
      obtain rfl : passing = [] := (Multiset.coe_eq_zero _).1 (by simpa [none] using passes)
      refine ⟨[entry], by simp [none], ?_⟩
      simpa [Journal.record, queue] using line
  | turnAway entry terminated =>
      exact ⟨handed, committed, fun alive => absurd terminated alive⟩
  | commit entry alive =>
      -- Only the first in line is ever certain to be handed over.
      obtain ⟨passing, passes, line⟩ := waiting alive
      simp only [Cargo.passing_add, Multiset.card_add, Multiset.card_singleton] at handing
      have lonely : others.passing = 0 := Multiset.card_eq_zero.1 (by omega)
      have none : others.committed = 0 := Multiset.card_eq_zero.1 (by omega)
      obtain rfl : passing = [entry] :=
        Multiset.coe_eq_singleton.1 (by simpa [lonely] using passes)
      refine ⟨handed, fun other member => ?_, fun _ => ⟨[entry], passes, line⟩⟩
      obtain rfl : other = entry := by simpa [none] using member
      exact ⟨flusher.queue, line⟩
  | hand entry =>
      simp only [Cargo.passing_add, Multiset.card_add, Multiset.card_singleton] at handing
      have lonely : others.passing = 0 := Multiset.card_eq_zero.1 (by omega)
      have none : others.committed = 0 := Multiset.card_eq_zero.1 (by omega)
      refine ⟨committed entry (by simp), by simp [none], fun alive => ?_⟩
      obtain ⟨passing, passes, line⟩ := waiting alive
      obtain rfl : passing = [entry] :=
        Multiset.coe_eq_singleton.1 (by simpa [lonely] using passes)
      refine ⟨[], by simp [lonely], ?_⟩
      simpa [Journal.record] using line
  | drain report => exact ⟨handed, committed, fun alive => absurd (late report rfl) alive⟩

theorem inLine_new : InLine ({} : Journal Callback) new 0 :=
  ⟨List.prefix_rfl, nofun, fun _ => ⟨[], rfl, rfl⟩⟩

end DatagramMux.Flusher
