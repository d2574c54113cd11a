import DatagramMux.Flusher.Steps
import DatagramMux.Machine.Run

/-!
# The journal of a run

What a run of the flusher has done so far, read off its moves: which writes were offered, in which
order they were queued, handed over and begun by the endpoint, which of them were completed and how,
and what the callbacks were told. A ticket counts when it is used for the first time after its write
was handed over; whatever is done with it later is ignored.
-/

namespace DatagramMux.Flusher

variable {Callback : Type}

/-- A move of a thread that uses the flusher. -/
abbrev FlusherMove (Callback : Type) :=
  Move (Task Callback) (Request Callback) (Method Callback) (fun _ => Unit)

/-- Whether a callback is told that its write was refused. -/
def isRefusal : Outcome → Bool
  | .error .closed => true
  | _ => false

/-- Those of whom a success is reported. -/
def successes {Key Cause : Type} (reports : List (Key × Except Cause Unit)) : List Key :=
  (reports.filter fun report => report.2.isOk).map Prod.fst

theorem successes_append {Key Cause : Type} (first second : List (Key × Except Cause Unit)) :
    successes (first ++ second) = successes first ++ successes second := by
  simp only [successes, List.filter_append, List.map_append]

/-- What has happened in a run, each list in the order of the events. -/
structure Journal (Callback : Type) where
  offered : List (WriteEntry Callback) := []
  /-- The writes that were put into the queue. -/
  queued : List (WriteEntry Callback) := []
  /-- The writes that were handed over; the tickets are the positions in this list. -/
  handed : List (WriteEntry Callback) := []
  /-- The writes that the endpoint has begun, with their tickets. -/
  written : List (WriteEntry Callback × Nat) := []
  /-- The tickets that were used, with what they were used for. -/
  completed : List (Nat × Completion) := []
  /-- The callbacks that were called, with what they were told. -/
  told : List (Callback × Outcome) := []

namespace Journal

def record (journal : Journal Callback) : FlusherMove Callback → Journal Callback
  | .enter (.offer entry) => { journal with offered := journal.offered ++ [entry] }
  | .work (.enqueue entry) => { journal with queued := journal.queued ++ [entry] }
  | .work (.hand entry) => { journal with handed := journal.handed ++ [entry] }
  | .work (.redeem ticket completion) =>
      if ticket < journal.handed.length ∧ ticket ∉ journal.completed.map Prod.fst then
        { journal with completed := journal.completed ++ [(ticket, completion)] }
      else journal
  | .begin (.write ticket entry) => { journal with written := journal.written ++ [(entry, ticket)] }
  | .begin (.notify callback outcome _) =>
      { journal with told := journal.told ++ [(callback, outcome)] }
  | _ => journal

/-- The use of a ticket adds to the list of completed writes at most. -/
theorem exists_record_redeem (journal : Journal Callback) (ticket : Nat) (completion : Completion) :
    ∃ completed, journal.record (.work (.redeem ticket completion)) =
      { journal with completed := completed } := by
  simp only [record]
  split
  · exact ⟨_, rfl⟩
  · exact ⟨journal.completed, rfl⟩

def after (moves : List (FlusherMove Callback)) : Journal Callback := moves.foldl record {}

@[simp]
theorem after_append_singleton (moves : List (FlusherMove Callback)) (move : FlusherMove Callback) :
    after (moves ++ [move]) = (after moves).record move := by
  simp only [after, List.foldl_append, List.foldl_cons, List.foldl_nil]

/-- The writes that the endpoint has begun and nobody has reported as completed. -/
def uncompleted (journal : Journal Callback) : List (WriteEntry Callback × Nat) :=
  journal.written.filter fun write => write.2 ∉ journal.completed.map Prod.fst

theorem uncompleted_tickets (journal : Journal Callback) :
    journal.uncompleted.map Prod.snd =
      (journal.written.map Prod.snd).filter (· ∉ journal.completed.map Prod.fst) := by
  rw [uncompleted, List.filter_map]
  rfl

/-- What callbacks were told of writes that had been handed over. -/
def settled (journal : Journal Callback) : List (Callback × Outcome) :=
  journal.told.filter fun told => !isRefusal told.2

end Journal

end DatagramMux.Flusher
