import DatagramMux.Proofs.Flusher.Accounts
import DatagramMux.Proofs.Flusher.Attendance
import DatagramMux.Proofs.Flusher.Line

/-!
# The invariant of the flusher

The roles of the frames, the attention to the queue, the tickets, the order of the queue and the
accounts of the callbacks, put together. What each of them needs of the others is derived here, so
that the whole is kept by every move of every thread.
-/

namespace DatagramMux.Flusher

open Component

variable {Callback : Type}

/-- What holds of the flusher and all frames of all threads after the moves that a journal tells of. -/
structure Sound (journal : Journal Callback) (flusher : Flusher Callback)
    (frames : Multiset (FlusherFrame Callback)) : Prop where
  owned : Owned flusher frames
  attended : Attended flusher frames
  ticketed : Ticketed journal flusher (total cargo frames)
  inLine : InLine journal flusher (total cargo frames)
  settled : Settled journal flusher (total cargo frames)
  conserved : Conserved journal flusher (total cargo frames)

/-- The slot for the current callback is free as long as the next write is prepared. -/
theorem Settled.current_eq_none {journal : Journal Callback} {flusher : Flusher Callback}
    {cargo : Cargo Callback} (settled : Settled journal flusher cargo)
    (ticketed : Ticketed journal flusher cargo) (bounded : Bounded flusher cargo)
    (preparing : 0 < cargo.passing.card) : flusher.current = none := by
  have card_owed := settled.card_owed ticketed
  have awaiting := bounded.awaiting
  have free : flusher.current.toList = [] := List.eq_nil_of_length_eq_zero (by omega)
  exact Option.toList_eq_nil_iff.1 free

/-- The slot for the current callback is taken as long as an answer awaits its callback. -/
theorem Settled.current_ne_none {journal : Journal Callback} {flusher : Flusher Callback}
    {cargo : Cargo Callback} (settled : Settled journal flusher cargo)
    (ticketed : Ticketed journal flusher cargo)
    (unsettled : cargo.settling.card < cargo.answers.card) : flusher.current ≠ none := by
  intro free
  have card_owed := settled.card_owed ticketed
  simp only [free, Option.toList_none, List.length_nil] at card_owed
  omega

namespace Sound

variable {journal : Journal Callback} {flusher next : Flusher Callback}
variable {move : FlusherMove Callback} {taken put : List (FlusherFrame Callback)}
variable {rest : Multiset (FlusherFrame Callback)}

theorem exchange (exchange : Exchange (component Callback) flusher move taken next put)
    (sound : Sound journal flusher (↑taken + rest)) :
    Sound (journal.record move) next (↑put + rest) := by
  obtain ⟨owned, attended, ticketed, inLine, settled, conserved⟩ := sound
  obtain ⟨takenSingle, putSingle⟩ := length_exchange_le exchange
  have bounded := owned.bounded
  have deal := exchange_deal exchange
  have certain := (within_total rest).settling
  rw [total_cargo_add takenSingle] at ticketed inLine settled conserved bounded
  refine ⟨owned.exchange exchange, attended.exchange exchange, ?_, ?_, ?_, ?_⟩ <;>
    rw [total_cargo_add putSingle]
  · exact ticketed.deal bounded deal
  · exact inLine.deal bounded (owned.orderly exchange) deal
  · exact settled.deal bounded certain ticketed deal
  · refine conserved.deal deal (fun entry handing => ?_) (fun completion collecting => ?_)
    · subst handing
      cases exchange
      exact settled.current_eq_none ticketed bounded (by simp [headCargo, cargo, Task.cargo])
    · subst collecting
      cases exchange
      apply settled.current_ne_none ticketed
      simp [headCargo, cargo, Task.cargo]
      omega

theorem start : Sound {} (Flusher.new : Flusher Callback) 0 where
  owned := owned_new
  attended := attended_new
  ticketed := ticketed_new
  inLine := inLine_new
  settled := settled_new
  conserved := conserved_new

theorem of_run {moves : List (FlusherMove Callback)} {stack : List (FlusherFrame Callback)}
    (run : Run (component Callback) Flusher.new [] moves flusher stack) :
    Sound (Journal.after moves) flusher ↑stack := by
  refine run.invariant_of_exchange (fun moves => Sound (Journal.after moves)) ?_ start
  intro moves flusher move taken next put rest exchange sound
  rw [Journal.after_append_singleton]
  exact sound.exchange exchange

theorem of_threadRun {count : Nat} {moves : List (Nat × FlusherMove Callback)}
    {threads : Threads (Flusher Callback) (Task Callback) (Request Callback)}
    (run : ThreadRun (component Callback) ⟨Flusher.new, List.replicate count []⟩ moves threads) :
    Sound (Journal.after (moves.map Prod.snd)) threads.state threads.gathered := by
  refine run.invariant_of_exchange (fun moves => Sound (Journal.after moves)) ?_ ?_
  · intro moves flusher move taken next put rest exchange sound
    rw [Journal.after_append_singleton]
    exact sound.exchange exchange
  · rw [gathered_of_quiet fun stack member => List.eq_of_mem_replicate member]
    exact start

end Sound

end DatagramMux.Flusher
