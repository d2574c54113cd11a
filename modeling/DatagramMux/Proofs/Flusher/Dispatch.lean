import DatagramMux.Proofs.Flusher.Counting
import DatagramMux.Proofs.Flusher.Successes
import DatagramMux.Proofs.Machine.Agenda

/-!
# The flusher among surroundings that keep to an agenda

How the flusher gets from one position to another in several moves: with which moves a write is
handed to the endpoint, what a completion sets off, and what becomes of writes that are offered while
the flusher is busy. Of the moves only the writes that the endpoint gets and what the callbacks are
told are kept.
-/

namespace DatagramMux.Flusher

open Component

variable {Callback : Type}

/-- What a callback is told by a call that begins. -/
def told? : FlusherMove Callback → Option (Callback × Outcome)
  | .begin (.notify callback outcome _) => some (callback, outcome)
  | _ => none

theorem Journal.told_after (moves : List (FlusherMove Callback)) :
    (Journal.after moves).told = moves.filterMap told? := by
  induction moves using List.reverseRecOn with
  | nil => rfl
  | append_singleton moves move ih =>
      rw [after_append_singleton, List.filterMap_append, filterMap_singleton, ← ih]
      cases move with
      | work task =>
          rw [((Journal.after moves).record_work task).2]
          exact (List.append_nil _).symm
      | begin request => cases request <;> first | rfl | exact (List.append_nil _).symm
      | finish request reply => exact (List.append_nil _).symm
      | enter method => cases method <;> exact (List.append_nil _).symm

abbrev FlusherAgenda (Callback : Type) :=
  Agenda (Request Callback) (Method Callback) fun _ => Unit

abbrev FlusherPosition (Callback : Type) :=
  Position (Flusher Callback) (Task Callback) (Request Callback) (Method Callback)

variable {agenda : FlusherAgenda Callback}

/--
Some moves lead from one position to another, in which the endpoint gets some writes and callbacks
are told some outcomes.
-/
def Brings (agenda : FlusherAgenda Callback) (first : FlusherPosition Callback)
    (written : List (WriteEntry Callback)) (told : List (Callback × Outcome))
    (last : FlusherPosition Callback) : Prop :=
  ∃ moves, Leads (component Callback) agenda first moves last ∧
    (moves.filterMap written?).map Prod.fst = written ∧ moves.filterMap told? = told

namespace Brings

variable {first middle last : FlusherPosition Callback}
variable {written further : List (WriteEntry Callback)} {told heard : List (Callback × Outcome)}

theorem refl (position : FlusherPosition Callback) : Brings agenda position [] [] position :=
  ⟨[], .refl position, rfl, rfl⟩

theorem trans (brings : Brings agenda first written told middle)
    (onward : Brings agenda middle further heard last) :
    Brings agenda first (written ++ further) (told ++ heard) last := by
  obtain ⟨moves, leads, rfl, rfl⟩ := brings
  obtain ⟨others, leadsThen, rfl, rfl⟩ := onward
  refine ⟨moves ++ others, leads.trans leadsThen, ?_, List.filterMap_append⟩
  rw [List.filterMap_append, List.map_append]

end Brings

/-- What a flusher has counted. -/
structure Tallies where
  submitted : UInt64 := 0
  completed : UInt64 := 0
  failed : UInt64 := 0

namespace Tallies

/-- The tallies after one more submission. -/
def submit (tallies : Tallies) : Tallies := { tallies with submitted := tallies.submitted + 1 }

/-- The tallies after a completion. -/
def count (tallies : Tallies) : Completion → Tallies
  | .ok () => { tallies with completed := tallies.completed + 1 }
  | .error _ => { tallies with failed := tallies.failed + 1 }

/-- A flusher whose endpoint has completed all that was handed to it. -/
def free (tallies : Tallies) (phase : Phase) (queue : List (WriteEntry Callback)) (handed : Nat) :
    Flusher Callback :=
  ⟨phase, queue, none, tallies.submitted, tallies.completed, tallies.failed, handed, []⟩

/-- A flusher whose endpoint has been handed one more write, which is not completed. -/
def engaged (tallies : Tallies) (phase : Phase) (queue : List (WriteEntry Callback))
    (callback : Callback) (handed : Nat) : Flusher Callback :=
  ⟨phase, queue, some callback, tallies.submitted, tallies.completed, tallies.failed, handed + 1,
    [handed]⟩

end Tallies

variable (tallies : Tallies) (phase : Phase) (queue : List (WriteEntry Callback)) (handed : Nat)
variable (below : List (FlusherFrame Callback)) (due : List (List (Method Callback)))
variable (plan : List (Method Callback))

/-! ## Single moves -/

theorem brings_work (flusher : Flusher Callback) (task : Task Callback) :
    Brings agenda ⟨flusher, .task task :: below, due, plan⟩ [] []
      ⟨(step flusher task).1, (step flusher task).2 ++ below, due, plan⟩ :=
  ⟨_, ⟨1, rfl⟩, rfl, rfl⟩

theorem brings_enter (flusher : Flusher Callback) (request : Request Callback)
    (method : Method Callback) (methods : List (Method Callback)) :
    Brings agenda ⟨flusher, .inside request :: below, (method :: methods) :: due, plan⟩ [] []
      ⟨flusher, .task (begun method) :: .inside request :: below, methods :: due, plan⟩ :=
  ⟨_, ⟨1, rfl⟩, rfl, rfl⟩

theorem brings_plan (flusher : Flusher Callback) (method : Method Callback) :
    Brings agenda ⟨flusher, [], due, method :: plan⟩ [] []
      ⟨flusher, [.task (begun method)], due, plan⟩ :=
  ⟨_, ⟨1, rfl⟩, rfl, rfl⟩

/-! ## One write -/

/-- The oldest write is handed to the endpoint. -/
theorem brings_write (entry : WriteEntry Callback) :
    Brings agenda
      ⟨tallies.free .iterating (entry :: queue) handed, .task .take :: below, due, plan⟩
      [entry] []
      ⟨tallies.engaged .iterating queue entry.callback handed,
        .inside (.write handed entry) :: below, agenda.during (.write handed entry) :: due, plan⟩ :=
  ⟨_, ⟨4, rfl⟩, rfl, rfl⟩

/-- When nothing waits any more, the flusher becomes idle. -/
theorem brings_idle :
    Brings agenda ⟨tallies.free .iterating [] handed, .task .take :: below, due, plan⟩ [] []
      ⟨tallies.free .idle [] handed, below, due, plan⟩ :=
  ⟨_, ⟨3, rfl⟩, rfl, rfl⟩

theorem redeem_unused (callback : Callback) (completion : Completion) :
    step (tallies.engaged phase queue callback handed) (.redeem handed completion) =
      ({ tallies.engaged phase queue callback handed with outstanding := [] },
        [.task (.collect completion)]) := by
  simp [step, Tallies.engaged]

/-- What is reported with a ticket that nobody holds is ignored. -/
theorem brings_ignored {flusher : Flusher Callback} {ticket : Nat} (completion : Completion)
    (used : ticket ∉ flusher.outstanding) :
    Brings agenda ⟨flusher, .task (.redeem ticket completion) :: below, due, plan⟩ [] []
      ⟨flusher, below, due, plan⟩ := by
  have ignored : step flusher (.redeem ticket completion) = (flusher, []) := if_neg used
  have redeemed : Brings agenda ⟨flusher, .task (.redeem ticket completion) :: below, due, plan⟩
      [] [] _ := brings_work below due plan _ _
  rw [ignored] at redeemed
  exact redeemed

/-- When the write that the endpoint has is completed, its callback is told. -/
theorem brings_told (callback : Callback) (completion : Completion) :
    Brings agenda
      ⟨tallies.engaged phase queue callback handed, .task (.redeem handed completion) :: below, due,
        plan⟩
      [] [(callback, completion.outcome)]
      ⟨(tallies.count completion).free phase queue (handed + 1),
        .inside (.notify callback completion.outcome completion.sequel) :: below,
        agenda.during (.notify callback completion.outcome completion.sequel) :: due, plan⟩ := by
  have redeemed : Brings agenda
      ⟨tallies.engaged phase queue callback handed, .task (.redeem handed completion) :: below, due,
        plan⟩ [] [] _ := brings_work below due plan _ _
  rw [redeem_unused] at redeemed
  refine redeemed.trans ?_
  cases completion <;> exact ⟨_, ⟨3, rfl⟩, rfl, rfl⟩

/-- After a completion during the write the iteration goes on when the endpoint returns. -/
theorem brings_next (callback : Callback) (ticket : Nat) (entry : WriteEntry Callback) :
    Brings agenda
      ⟨tallies.free .iterating queue handed,
        .inside (.notify callback (.ok ()) .succeed) :: .inside (.write ticket entry) :: below,
        [] :: [] :: due, plan⟩
      [] []
      ⟨tallies.free .iterating queue handed, .task .take :: below, due, plan⟩ :=
  ⟨_, ⟨6, rfl⟩, rfl, rfl⟩

/-- After a completion that came later the iteration is taken up again. -/
theorem brings_resumed (callback : Callback) :
    Brings agenda
      ⟨tallies.free .pending queue handed, .inside (.notify callback (.ok ()) .succeed) :: below,
        [] :: due, plan⟩
      [] []
      ⟨tallies.free .iterating queue handed, .task .take :: below, due, plan⟩ :=
  ⟨_, ⟨3, rfl⟩, rfl, rfl⟩

/-- If the endpoint returns without a completion, the flusher waits for it. -/
theorem brings_pending (callback : Callback) (ticket : Nat) (entry : WriteEntry Callback) :
    Brings agenda
      ⟨tallies.engaged .iterating queue callback handed, .inside (.write ticket entry) :: below,
        [] :: due, plan⟩
      [] []
      ⟨tallies.engaged .pending queue callback handed, below, due, plan⟩ :=
  ⟨_, ⟨2, rfl⟩, rfl, rfl⟩

/-- If the flusher has terminated during the write, the iteration ends. -/
theorem brings_ended (ticket : Nat) (entry : WriteEntry Callback) :
    Brings agenda
      ⟨tallies.free .terminated [] handed, .inside (.write ticket entry) :: below, [] :: due, plan⟩
      [] []
      ⟨tallies.free .terminated [] handed, below, due, plan⟩ :=
  ⟨_, ⟨4, rfl⟩, rfl, rfl⟩

/-! ## Writes that are offered -/

/-- An idle flusher begins to iterate when a write is offered. -/
theorem brings_offered (entry : WriteEntry Callback) :
    Brings agenda ⟨tallies.free .idle [] handed, [], due, .offer entry :: plan⟩ [] []
      ⟨tallies.submit.free .iterating [entry] handed, [.task .take], due, plan⟩ :=
  ⟨_, ⟨4, rfl⟩, rfl, rfl⟩

/-- While a completion is awaited, a write that is offered is queued. -/
theorem brings_offered_pending (callback : Callback) (entry : WriteEntry Callback) :
    Brings agenda
      ⟨tallies.engaged .pending queue callback handed, [], due, .offer entry :: plan⟩ [] []
      ⟨tallies.submit.engaged .pending (queue ++ [entry]) callback handed, [], due, plan⟩ :=
  ⟨_, ⟨4, rfl⟩, rfl, rfl⟩

/-- After the flusher has terminated, a write that is offered is going to be refused. -/
theorem brings_offered_terminated (entry : WriteEntry Callback) :
    Brings agenda ⟨tallies.free .terminated [] handed, [], due, .offer entry :: plan⟩ [] []
      ⟨tallies.submit.free .terminated [] handed, [.task (.refuseAll [entry] false)], due, plan⟩ :=
  ⟨_, ⟨5, rfl⟩, rfl, rfl⟩

/-- While the flusher iterates, writes that are offered are queued and nothing else. -/
theorem brings_queued (request : Request Callback) (entries : List (WriteEntry Callback)) :
    ∃ last : Tallies, Brings agenda
      ⟨tallies.free .iterating queue handed, .inside request :: below,
        entries.map .offer :: due, plan⟩
      [] []
      ⟨last.free .iterating (queue ++ entries) handed, .inside request :: below, [] :: due, plan⟩ := by
  induction entries generalizing tallies queue with
  | nil =>
      rw [List.append_nil]
      exact ⟨tallies, .refl _⟩
  | cons entry entries ih =>
      obtain ⟨last, brings⟩ := ih tallies.submit (queue ++ [entry])
      rw [List.append_assoc, List.singleton_append] at brings
      exact ⟨last, (brings_enter _ _ _ _ _ (.offer entry) _).trans
        (.trans ⟨_, ⟨3, rfl⟩, rfl, rfl⟩ brings)⟩

end DatagramMux.Flusher
