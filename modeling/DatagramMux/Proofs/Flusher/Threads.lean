import DatagramMux.Proofs.Flusher.Invariant
import DatagramMux.Proofs.Machine.Script

/-!
# The flusher under threads

Any number of threads may submit writes, ask for progress, close the flusher and report completions,
one atomic step at a time and in any order. At most one write is with the endpoint, the endpoint gets
the writes in the order of the queue, and when all threads have left the flusher nothing is left in
the queue unless a completion is still to come.
-/

namespace DatagramMux.Flusher

open Component

variable {Callback : Type}
variable {journal : Journal Callback} {flusher : Flusher Callback}
variable {frames : Multiset (FlusherFrame Callback)}

theorem Sound.length_uncompleted_le (sound : Sound journal flusher frames) :
    journal.uncompleted.length ≤ 1 := by
  have tickets := sound.ticketed.uncompleted_sublist.length_le
  have awaiting := sound.owned.bounded.awaiting
  rw [List.length_map] at tickets
  omega

theorem Sound.written_prefix_queued (sound : Sound journal flusher frames) :
    journal.written.map Prod.fst <+: journal.queued := by
  have written := sound.ticketed.written_prefix.map Prod.fst
  rw [List.zipIdx_map_fst] at written
  exact written.trans sound.inLine.handed

/-- When nobody is using the flusher, its phase tells what is left to be done. -/
theorem Sound.of_quiet (sound : Sound journal flusher 0) :
    flusher.phase = .idle ∧ flusher.queue = [] ∧ journal.uncompleted = [] ∨
      flusher.phase = .pending ∧ journal.uncompleted.length = 1 ∨
        flusher.phase = .terminated ∧ flusher.queue = [] := by
  have owned := sound.owned
  have unused := congrArg List.length (sound.ticketed.uncompleted_eq rfl)
  have empty : flusher.phase.unattended = true → flusher.queue = [] := by
    intro unattended
    by_contra waiting
    obtain ⟨frame, member, -⟩ := sound.attended unattended waiting
    exact Multiset.notMem_zero frame member
  rw [List.length_map] at unused
  simp only [Owned, awaited, inRole, total_zero, add_zero] at owned
  cases phase : flusher.phase with
  | idle =>
      rw [phase] at owned empty
      obtain ⟨-, -, -, outstanding, -⟩ := owned
      exact .inl ⟨rfl, empty rfl, List.eq_nil_of_length_eq_zero (unused.trans outstanding)⟩
  | pending =>
      rw [phase] at owned
      obtain ⟨-, -, -, outstanding, -⟩ := owned
      exact .inr (.inl ⟨rfl, unused.trans outstanding⟩)
  | terminated =>
      rw [phase] at empty
      exact .inr (.inr ⟨rfl, empty rfl⟩)
  | iterating | called =>
      rw [phase] at owned
      simp [Phase.Admits] at owned

/--
At most one write that was handed to the endpoint is uncompleted at any time, and the endpoint gets
the writes in the order in which they were queued. When no thread is inside the flusher, it is idle
and has nothing left to do, or it is waiting for the completion of exactly one write, or it is
terminated and has nothing left to refuse.
-/
theorem single_flight_and_nothing_stranded {count : Nat}
    {moves : List (Nat × FlusherMove Callback)}
    {threads : Threads (Flusher Callback) (Task Callback) (Request Callback)}
    (run : ThreadRun (component Callback) ⟨Flusher.new, List.replicate count []⟩ moves threads) :
    (Journal.after (moves.map Prod.snd)).uncompleted.length ≤ 1 ∧
      (Journal.after (moves.map Prod.snd)).written.map Prod.fst <+:
        (Journal.after (moves.map Prod.snd)).queued ∧
      (threads.Quiet →
        threads.state.phase = .idle ∧ threads.state.queue = [] ∧
            (Journal.after (moves.map Prod.snd)).uncompleted = [] ∨
          threads.state.phase = .pending ∧
              (Journal.after (moves.map Prod.snd)).uncompleted.length = 1 ∨
            threads.state.phase = .terminated ∧ threads.state.queue = []) := by
  have sound := Sound.of_threadRun run
  refine ⟨sound.length_uncompleted_le, sound.written_prefix_queued, fun quiet => ?_⟩
  rw [gathered_of_quiet quiet] at sound
  exact sound.of_quiet

/-- Two threads submit a write each; the second one comes while the first is at the endpoint. -/
def twoOffers : List (Nat × Choice (Request Nat) (Method Nat) fun _ => Unit) :=
  List.flatten
    [[(0, .enter (.offer ⟨1, default, []⟩))], List.replicate 7 (0, .proceed),
      [(1, .enter (.offer ⟨2, default, []⟩))], List.replicate 3 (1, .proceed),
      [(0, .finish fun _ => ()), (0, .proceed)]]

theorem pending_after_twoOffers :
    let trace := ThreadTrace.follow (component Nat) ⟨Flusher.new, List.replicate 2 []⟩ twoOffers
    trace.threads.Quiet ∧ trace.threads.state.queue = [⟨2, default, []⟩] ∧
      trace.threads.state.phase = .pending ∧
        (Journal.after (trace.moves.map Prod.snd)).uncompleted.length = 1 := by
  have run := ThreadTrace.run_follow (component Nat) ⟨Flusher.new, List.replicate 2 []⟩ twoOffers
  have quiet : (ThreadTrace.follow (component Nat) ⟨Flusher.new, List.replicate 2 []⟩
      twoOffers).threads.Quiet := by
    unfold Threads.Quiet
    decide
  rcases (single_flight_and_nothing_stranded run).2.2 quiet with
    ⟨-, empty, -⟩ | ⟨phase, uncompleted⟩ | ⟨terminated, -⟩
  · cases empty
  · exact ⟨quiet, rfl, phase, uncompleted⟩
  · cases terminated

end DatagramMux.Flusher
