import DatagramMux.Proofs.Flusher.Journal
import DatagramMux.Proofs.Flusher.Ownership

/-!
# What a move does with entries and callbacks

Between being offered and having its callback called, an entry is in the queue, in the slot for the
current callback, or carried by a frame. This module tells what each frame carries and lists the
deals that a move can make: what it takes from the frame, the queue or the slot, where it puts it,
and what it adds to the journal.
-/

namespace DatagramMux.Flusher

open Component

variable {Callback : Type}

/-- What some frames carry. -/
@[ext]
structure Cargo (Callback : Type) where
  /-- Entries that are offered and not yet in the queue. -/
  submitting : Multiset (WriteEntry Callback) := 0
  /-- Entries that were taken from the queue and may still be handed over. -/
  passing : Multiset (WriteEntry Callback) := 0
  /-- Those among them that are certain to be handed over. -/
  committed : Multiset (WriteEntry Callback) := 0
  /-- Entries that were handed over, with their tickets, of which the endpoint has yet to learn. -/
  calling : Multiset (WriteEntry Callback × Nat) := 0
  /-- What was reported of writes whose callback was not yet called. -/
  answers : Multiset Outcome := 0
  /-- The callbacks of these writes, if they were taken out of the slot. -/
  settling : Multiset Callback := 0
  /-- Callbacks that are to be called without their entry having been handed over. -/
  refused : Multiset (Callback × Outcome) := 0

namespace Cargo

instance : Zero (Cargo Callback) := ⟨{}⟩

instance : Add (Cargo Callback) where
  add first second :=
    { submitting := first.submitting + second.submitting
      passing := first.passing + second.passing
      committed := first.committed + second.committed
      calling := first.calling + second.calling
      answers := first.answers + second.answers
      settling := first.settling + second.settling
      refused := first.refused + second.refused }

instance : AddCommMonoid (Cargo Callback) where
  add_assoc _ _ _ := by ext1 <;> exact add_assoc _ _ _
  zero_add _ := by ext1 <;> exact zero_add _
  add_zero _ := by ext1 <;> exact add_zero _
  add_comm _ _ := by ext1 <;> exact add_comm _ _
  nsmul := nsmulRec

@[simp]
theorem submitting_add (first second : Cargo Callback) :
    (first + second).submitting = first.submitting + second.submitting := rfl

@[simp]
theorem passing_add (first second : Cargo Callback) :
    (first + second).passing = first.passing + second.passing := rfl

@[simp]
theorem committed_add (first second : Cargo Callback) :
    (first + second).committed = first.committed + second.committed := rfl

@[simp]
theorem calling_add (first second : Cargo Callback) :
    (first + second).calling = first.calling + second.calling := rfl

@[simp]
theorem answers_zero : (0 : Cargo Callback).answers = 0 := rfl

@[simp]
theorem answers_add (first second : Cargo Callback) :
    (first + second).answers = first.answers + second.answers := rfl

@[simp]
theorem settling_zero : (0 : Cargo Callback).settling = 0 := rfl

@[simp]
theorem settling_add (first second : Cargo Callback) :
    (first + second).settling = first.settling + second.settling := rfl

@[simp]
theorem refused_add (first second : Cargo Callback) :
    (first + second).refused = first.refused + second.refused := rfl

end Cargo

/-- A callback that is to be told of a refusal. -/
def refusal (entry : WriteEntry Callback) : Callback × Outcome :=
  (entry.callback, .error .closed)

def Task.cargo : Task Callback → Cargo Callback
  | .count entry | .enqueue entry => { submitting := {entry} }
  | .check entry => { passing := {entry} }
  | .hand entry => { passing := {entry}, committed := {entry} }
  | .refuse entry => { refused := {refusal entry} }
  | .collect completion => { answers := {completion.outcome} }
  | .tally (some callback) completion =>
      { answers := {completion.outcome}, settling := {callback} }
  | .refuseAll entries _ => { refused := entries.map refusal }
  | .iterate | .take | .settle | .look | .reclaim | .written | .regain | .redeem _ _
  | .tally none _ | .succeed | .mark | .resume | .fail | .drain _ | .close => 0

/-- Whether a step follows the callback of a write that has ended at the endpoint. -/
def Task.concludes : Task Callback → Bool
  | .succeed | .fail => true
  | _ => false

def cargo : FlusherFrame Callback → Cargo Callback
  | .task task => task.cargo
  | .call (.write ticket entry) => { calling := {(entry, ticket)} }
  | .call (.notify callback outcome next) =>
      if next.concludes then { answers := {outcome}, settling := {callback} }
      else { refused := {(callback, outcome)} } + next.cargo
  | .inside (.notify _ _ next) => next.cargo
  | .inside (.write _ _) | .call .failure | .inside .failure => 0

/-- What the first of some frames carries. -/
def headCargo (frames : List (FlusherFrame Callback)) : Cargo Callback :=
  (frames.head?.map cargo).getD 0

/--
A move with what was carried by the frame that it takes away and what is carried by the frame that
it puts in place.
-/
inductive Deal (flusher : Flusher Callback) :
    FlusherMove Callback → Cargo Callback → Flusher Callback → Cargo Callback → Prop where
  | plain (move : FlusherMove Callback) (next : Flusher Callback) (cargo : Cargo Callback) :
      (∀ journal : Journal Callback, journal.record move = journal) →
        next.queue = flusher.queue → next.current = flusher.current →
          next.handed = flusher.handed → next.outstanding = flusher.outstanding →
            Deal flusher move cargo next cargo
  | offer (entry : WriteEntry Callback) :
      Deal flusher (.enter (.offer entry)) 0 flusher { submitting := {entry} }
  | enqueue (entry : WriteEntry Callback) :
      Deal flusher (.work (.enqueue entry)) { submitting := {entry} }
        { flusher with queue := flusher.queue ++ [entry] } 0
  | take (entry : WriteEntry Callback) (rest : List (WriteEntry Callback)) :
      flusher.queue = entry :: rest →
        Deal flusher (.work .take) 0 { flusher with queue := rest } { passing := {entry} }
  | turnAway (entry : WriteEntry Callback) : flusher.phase = .terminated →
      Deal flusher (.work (.check entry)) { passing := {entry} } flusher { refused := {refusal entry} }
  | commit (entry : WriteEntry Callback) : flusher.phase ≠ .terminated →
      Deal flusher (.work (.check entry)) { passing := {entry} }
        flusher { passing := {entry}, committed := {entry} }
  | hand (entry : WriteEntry Callback) :
      Deal flusher (.work (.hand entry)) { passing := {entry}, committed := {entry} }
        { flusher with
          current := some entry.callback
          handed := flusher.handed + 1
          outstanding := flusher.outstanding ++ [flusher.handed] }
        { calling := {(entry, flusher.handed)} }
  | write (entry : WriteEntry Callback) (ticket : Nat) :
      Deal flusher (.begin (.write ticket entry)) { calling := {(entry, ticket)} } flusher 0
  | redeem (ticket : Nat) (completion : Completion) : ticket ∈ flusher.outstanding →
      Deal flusher (.work (.redeem ticket completion)) 0
        { flusher with outstanding := flusher.outstanding.erase ticket }
        { answers := {completion.outcome} }
  | stale (ticket : Nat) (completion : Completion) : ticket ∉ flusher.outstanding →
      Deal flusher (.work (.redeem ticket completion)) 0 flusher 0
  | collect (callback : Callback) (completion : Completion) : flusher.current = some callback →
      Deal flusher (.work (.collect completion)) { answers := {completion.outcome} }
        { flusher with current := none }
        { answers := {completion.outcome}, settling := {callback} }
  /-- The slot for the current callback is empty; this does not happen. -/
  | miss (completion : Completion) : flusher.current = none →
      Deal flusher (.work (.collect completion)) { answers := {completion.outcome} }
        { flusher with current := none } 0
  | tell (callback : Callback) (outcome : Outcome) (next : Task Callback) :
      Deal flusher (.begin (.notify callback outcome next))
        { answers := {outcome}, settling := {callback} } flusher 0
  | refuse (callback : Callback) (outcome : Outcome) (next : Task Callback) :
      Deal flusher (.begin (.notify callback outcome next))
        ({ refused := {(callback, outcome)} } + next.cargo) flusher next.cargo
  | drain (report : Bool) :
      Deal flusher (.work (.drain report)) 0 { flusher with queue := [] }
        { refused := flusher.queue.map refusal }

theorem step_deal (flusher : Flusher Callback) (task : Task Callback) :
    Deal flusher (.work task) task.cargo (step flusher task).1 (headCargo (step flusher task).2) := by
  obtain ⟨phase, queue, current, submitted, completed, failed, handed, outstanding⟩ := flusher
  cases task with
  | count entry => exact .plain _ _ _ (fun _ => rfl) rfl rfl rfl rfl
  | enqueue entry => exact .enqueue entry
  | iterate | reclaim | settle | written | regain | succeed | mark | resume =>
      cases phase <;> exact .plain _ _ _ (fun _ => rfl) rfl rfl rfl rfl
  | take =>
      cases queue with
      | nil => exact .plain _ _ _ (fun _ => rfl) rfl rfl rfl rfl
      | cons entry rest => exact .take entry rest rfl
  | look => cases queue <;> exact .plain _ _ _ (fun _ => rfl) rfl rfl rfl rfl
  | check entry =>
      cases phase with
      | terminated => exact .turnAway entry rfl
      | idle | iterating | pending | called => exact .commit entry nofun
  | refuse entry => exact .plain _ _ _ (fun _ => rfl) rfl rfl rfl rfl
  | hand entry => exact .hand entry
  | redeem ticket completion =>
      by_cases unused : ticket ∈ outstanding
      · simp only [step, unused, if_true]
        exact .redeem ticket completion unused
      · simp only [step, unused, if_false]
        exact .stale ticket completion unused
  | collect completion =>
      cases current with
      | none => exact .miss completion rfl
      | some callback => exact .collect callback completion rfl
  | tally callback? completion =>
      cases completion <;> cases callback? <;>
        exact .plain _ _ _ (fun _ => rfl) rfl rfl rfl rfl
  | fail => exact .plain _ _ _ (fun _ => rfl) rfl rfl rfl rfl
  | drain report => exact .drain report
  | refuseAll entries report =>
      cases entries with
      | nil => cases report <;> exact .plain _ _ _ (fun _ => rfl) rfl rfl rfl rfl
      | cons entry rest => exact .plain _ _ _ (fun _ => rfl) rfl rfl rfl rfl
  | close => exact .plain _ _ _ (fun _ => rfl) rfl rfl rfl rfl

theorem exchange_deal {flusher next : Flusher Callback} {move taken put}
    (exchange : Exchange (component Callback) flusher move taken next put) :
    Deal flusher move (headCargo taken) next (headCargo put) := by
  cases exchange with
  | work task => exact step_deal flusher task
  | begin request =>
      cases request with
      | write ticket entry => exact .write entry ticket
      | notify callback outcome following =>
          cases following with
          | succeed | fail => exact .tell callback outcome _
          | _ => exact .refuse callback outcome _
      | failure => exact .plain _ _ _ (fun _ => rfl) rfl rfl rfl rfl
  | finish request reply =>
      cases request <;> exact .plain _ _ _ (fun _ => rfl) rfl rfl rfl rfl
  | enter method =>
      cases method with
      | offer entry => exact .offer entry
      | iterate | close | complete => exact .plain _ _ _ (fun _ => rfl) rfl rfl rfl rfl

theorem total_cargo_add {frames : List (FlusherFrame Callback)} (single : frames.length ≤ 1)
    (rest : Multiset (FlusherFrame Callback)) :
    total cargo ((frames : Multiset (FlusherFrame Callback)) + rest) =
      headCargo frames + total cargo rest := by
  rw [total_add, total_coe]
  rcases frames with - | ⟨frame, - | ⟨second, frames⟩⟩
  · simp [headCargo]
  · simp [headCargo]
  · simp at single

/-! ## How much is carried -/

/-- What is carried is bounded by the roles, and only what has an answer is settled. -/
structure Cargo.Within (cargo : Cargo Callback) (share : Role → Nat) : Prop where
  passing : cargo.passing.card ≤ share .preparing
  calling : cargo.calling.card ≤ share .writing
  answers : cargo.answers.card ≤ share .collecting + share .answering
  settling : cargo.settling.card ≤ cargo.answers.card
  committed : cargo.committed.card ≤ cargo.passing.card

/-- Refusals are not counted. -/
theorem Cargo.within_refused (refused : Multiset (Callback × Outcome)) (share : Role → Nat) :
    ({ refused := refused } : Cargo Callback).Within share :=
  ⟨Nat.zero_le _, Nat.zero_le _, Nat.zero_le _, Nat.zero_le _, Nat.zero_le _⟩

theorem Cargo.within_zero (share : Role → Nat) : (0 : Cargo Callback).Within share :=
  within_refused 0 share

theorem Cargo.Within.add {first second : Cargo Callback} {share shareToo : Role → Nat}
    (within : first.Within share) (withinToo : second.Within shareToo) :
    (first + second).Within fun wanted => share wanted + shareToo wanted where
  passing := by
    rw [passing_add, Multiset.card_add]
    exact Nat.add_le_add within.passing withinToo.passing
  calling := by
    rw [calling_add, Multiset.card_add]
    exact Nat.add_le_add within.calling withinToo.calling
  answers := by
    have both := Nat.add_le_add within.answers withinToo.answers
    rw [answers_add, Multiset.card_add]
    omega
  settling := by
    rw [settling_add, answers_add, Multiset.card_add, Multiset.card_add]
    exact Nat.add_le_add within.settling withinToo.settling
  committed := by
    rw [committed_add, passing_add, Multiset.card_add, Multiset.card_add]
    exact Nat.add_le_add within.committed withinToo.committed

theorem Task.within (task : Task Callback) :
    task.cargo.Within fun wanted => wanted.share task.role := by
  cases task with
  | refuse | refuseAll => exact Cargo.within_refused _ _
  | count | enqueue | check | hand | collect =>
      constructor <;> simp [Task.cargo, Task.role, Role.share]
  | tally callback? completion =>
      cases callback? with
      | none => exact Cargo.within_zero _
      | some callback => constructor <;> simp [Task.cargo, Task.role, Role.share]
  | _ => exact Cargo.within_zero _

theorem within_role (frame : FlusherFrame Callback) :
    (cargo frame).Within fun wanted => wanted.share (role frame) := by
  match frame with
  | .task task => exact task.within
  | .inside (.notify _ _ next) => exact next.within
  | .call (.notify callback outcome next) =>
      cases concluding : next.concludes with
      | true =>
          cases next with
          | succeed | fail =>
              constructor <;> simp [cargo, role, Task.concludes, Task.role, Role.share]
          | _ => cases concluding
      | false =>
          have both := (Cargo.within_refused {(callback, outcome)} fun _ => 0).add next.within
          simpa only [cargo, concluding, role, zero_add, Bool.false_eq_true, if_false] using both
  | .call (.write _ _) => constructor <;> simp [cargo, role, Role.share]
  | .inside (.write _ _) | .call .failure | .inside .failure => exact Cargo.within_zero _

theorem within_total (frames : Multiset (FlusherFrame Callback)) :
    (total cargo frames).Within fun wanted => inRole wanted frames := by
  induction frames using Multiset.induction with
  | empty => exact Cargo.within_zero _
  | cons frame frames ih =>
      simp only [inRole, total_cons] at ih ⊢
      exact (within_role frame).add ih

/-- At most one entry is on its way to the endpoint or awaits its completion. -/
structure Bounded (flusher : Flusher Callback) (cargo : Cargo Callback) : Prop where
  handing : cargo.passing.card + cargo.calling.card ≤ 1
  awaiting : cargo.passing.card + flusher.outstanding.length + cargo.answers.card ≤ 1

theorem Owned.bounded {flusher : Flusher Callback} {frames : Multiset (FlusherFrame Callback)}
    (owned : Owned flusher frames) : Bounded flusher (total cargo frames) := by
  obtain ⟨passing, calling, answers, -, -⟩ := within_total frames
  unfold Owned awaited Phase.Admits at owned
  constructor <;> split at owned <;> omega

end DatagramMux.Flusher
