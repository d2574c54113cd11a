import DatagramMux.Proofs.Connection.Departure

/-!
# What is heard of a connection

Some moves of a connection have to do only with its input and its buffers, or only ask it to read or
to close. They change nothing that it remembers, and neither a session nor the flusher hears of them.
So what has become of the sessions and of the writes can be told from the other moves alone.
-/

namespace DatagramMux.Connection

open Component

variable {Callback Session : Type}
variable {first : Connection Callback Session} {session : Session}
variable {moves others : List (ConnectionMove Callback Session)}
variable {move : ConnectionMove Callback Session}

/--
Whether a move has to do with more than the input and the buffers, and with more than being asked to
read or to close.
-/
def loud : ConnectionMove Callback Session → Bool
  | .begin (.acquire _ _) | .begin (.release _ _) | .begin (.fill _) | .begin .interest
  | .begin .shutdownOutput | .begin .isOpen | .enter .fillable | .enter .close => false
  | .finish (.acquire _ _) _ | .finish (.release _ _) _ | .finish (.fill _) _ | .finish .interest _
  | .finish .shutdownOutput _ | .finish .isOpen _ => false
  | _ => true

/-! ## Quiet moves -/

theorem moved_of_quiet (quiet : loud move = false) (connection : Connection Callback Session) :
    moved connection move = connection := by
  cases move with
  | work task => cases quiet
  | «begin» | finish | enter => rfl

theorem born_of_quiet (quiet : loud move = false) : born move = none := by
  unfold loud at quiet
  split at quiet <;> first | rfl | cases quiet

theorem flusherMoves_of_quiet (quiet : loud move = false) : flusherMoves move = [] := by
  unfold loud at quiet
  split at quiet <;> first | rfl | cases quiet

theorem closes_of_quiet [DecidableEq Session] (quiet : loud move = false) :
    closes session move = false := by
  unfold loud at quiet
  split at quiet <;> first | rfl | cases quiet

/-! ## The loud moves tell all -/

theorem after_filter_loud (first : Connection Callback Session)
    (moves : List (ConnectionMove Callback Session)) :
    after first (moves.filter loud) = after first moves := by
  rw [after, List.foldl_filter, after]
  congr 1
  funext connection move
  cases heard : loud move with
  | true => rfl
  | false => exact (moved_of_quiet heard connection).symm

theorem born_filter_loud (moves : List (ConnectionMove Callback Session)) :
    (moves.filter loud).filterMap born = moves.filterMap born := by
  rw [List.filterMap_filter]
  refine List.filterMap_congr fun move _ => ?_
  cases heard : loud move with
  | true => rfl
  | false => exact (born_of_quiet heard).symm

theorem flusherMoves_filter_loud (moves : List (ConnectionMove Callback Session)) :
    (moves.filter loud).flatMap flusherMoves = moves.flatMap flusherMoves := by
  induction moves with
  | nil => rfl
  | cons move moves ih =>
      cases heard : loud move with
      | true => rw [List.filter_cons_of_pos heard, List.flatMap_cons, List.flatMap_cons, ih]
      | false =>
          rw [List.filter_cons_of_neg (by simp [heard]), List.flatMap_cons,
            flusherMoves_of_quiet heard, List.nil_append, ih]

theorem closes_filter_loud [DecidableEq Session] (session : Session)
    (moves : List (ConnectionMove Callback Session)) :
    (moves.filter loud).countP (closes session) = moves.countP (closes session) := by
  rw [List.countP_filter]
  refine List.countP_congr fun move _ => ?_
  cases heard : loud move with
  | true => simp
  | false => simp [closes_of_quiet heard]

theorem enrolled_filter_loud :
    Enrolled first (moves.filter loud) session ↔ Enrolled first moves session := by
  constructor
  · rintro ⟨earlier, later, identifier, whole, registered⟩
    obtain ⟨before, further, rfl, rfl, rfl⟩ := List.filter_eq_append_iff.1 whole
    rw [after_filter_loud] at registered
    exact ⟨before, further, identifier, rfl, registered⟩
  · rintro ⟨earlier, later, identifier, rfl, registered⟩
    refine ⟨earlier.filter loud, later.filter loud, identifier, List.filter_append _ _, ?_⟩
    rw [after_filter_loud]
    exact registered

theorem dismissed_filter_loud :
    Dismissed first (moves.filter loud) session ↔ Dismissed first moves session := by
  constructor
  · rintro ⟨earlier, later, identifier, whole, registered⟩
    obtain ⟨before, further, rfl, rfl, rest⟩ := List.filter_eq_append_iff.1 whole
    obtain ⟨between, onward, rfl, quiet, -, rfl⟩ := List.filter_eq_cons_iff.1 rest
    refine ⟨before ++ between, onward, identifier, (List.append_assoc _ _ _).symm, ?_⟩
    have silent : between.filter loud = [] := List.filter_eq_nil_iff.2 quiet
    rw [← after_filter_loud, List.filter_append, silent, List.append_nil]
    exact registered
  · rintro ⟨earlier, later, identifier, rfl, registered⟩
    refine ⟨earlier.filter loud, later.filter loud, identifier, ?_, ?_⟩
    · rw [List.filter_append, List.filter_cons_of_pos rfl]
    · rw [after_filter_loud]
      exact registered

/-! ## Lists with the same loud moves -/

/--
A connection is closed, and what it had to do with is over: the sessions that were registered, but for
those that somebody closed by their identifiers, and the writes that were submitted.
-/
structure Concluded [DecidableEq Session] (first last : Connection Callback Session)
    (moves : List (ConnectionMove Callback Session)) : Prop where
  closed : last.closed = true
  vacant : last.registry.entries = []
  idle : last.flusher.queue = []
  closedOnce : ∀ session, Enrolled first moves session → ¬Dismissed first moves session →
    moves.countP (closes session) = 1
  calledBack : ((journal moves).told.map Prod.fst).Perm
    ((journal moves).offered.map WriteEntry.callback)

section Same

variable (same : moves.filter loud = others.filter loud)

include same

theorem born_eq_of_same : moves.filterMap born = others.filterMap born := by
  rw [← born_filter_loud, same, born_filter_loud]

theorem journal_eq_of_same : journal moves = journal others := by
  rw [journal, ← flusherMoves_filter_loud, same, flusherMoves_filter_loud, journal]

theorem closes_eq_of_same [DecidableEq Session] (session : Session) :
    moves.countP (closes session) = others.countP (closes session) := by
  rw [← closes_filter_loud, same, closes_filter_loud]

theorem enrolled_iff_of_same : Enrolled first moves session ↔ Enrolled first others session := by
  rw [← enrolled_filter_loud, same, enrolled_filter_loud]

theorem dismissed_iff_of_same :
    Dismissed first moves session ↔ Dismissed first others session := by
  rw [← dismissed_filter_loud, same, dismissed_filter_loud]

theorem Concluded.of_same [DecidableEq Session] {last : Connection Callback Session}
    (concluded : Concluded first last moves) : Concluded first last others where
  closed := concluded.closed
  vacant := concluded.vacant
  idle := concluded.idle
  closedOnce session enrolled kept := by
    rw [← closes_eq_of_same same]
    exact concluded.closedOnce session ((enrolled_iff_of_same same).2 enrolled)
      fun dismissed => kept ((dismissed_iff_of_same same).1 dismissed)
  calledBack := by
    rw [← journal_eq_of_same same]
    exact concluded.calledBack

end Same

end DatagramMux.Connection
