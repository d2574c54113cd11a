import DatagramMux.Proofs.Flusher.Ownership

/-!
# Who looks after the queue

While the flusher iterates, waits for a completion or has just been told of one, somebody is bound
to come back to the queue. While it is idle or terminated nobody needs to be, and an entry that is
queued then depends on some frame that will still look. This module tells which frames do, and proves
that there is always one as long as an entry waits.
-/

namespace DatagramMux.Flusher

open Component

variable {Callback : Type}

/-- Whether a phase leaves it to the frames to look after the queue. -/
def Phase.unattended : Phase → Bool
  | .idle | .terminated => true
  | .iterating | .pending | .called => false

/-- Whether a step leads to another look at the queue, provided that the phase stays the same. -/
def Task.attends (phase : Phase) : Task Callback → Bool
  | .iterate | .look | .reclaim => true
  | .count _ | .enqueue _ | .redeem _ _ | .refuseAll _ _ | .close => false
  | .take | .settle | .check _ | .refuse _ | .hand _ | .written | .regain | .collect _ | .tally _ _
  | .succeed | .mark | .resume | .fail | .drain _ => phase = .terminated

/-- Whether a frame leads to another look at the queue, provided that the phase stays the same. -/
def attends (phase : Phase) : FlusherFrame Callback → Bool
  | .task task => task.attends phase
  | .call (.write _ _) | .inside (.write _ _) => phase = .terminated
  | .call (.notify _ _ next) | .inside (.notify _ _ next) => next.attends phase
  | .call .failure | .inside .failure => false

/-- How a move sees to it that a waiting entry is not forgotten. -/
inductive Care (flusher next : Flusher Callback) (taken put : List (FlusherFrame Callback)) :
    Prop where
  | phase : next.phase.unattended = false → Care flusher next taken put
  | empty : next.queue = [] → Care flusher next taken put
  /-- A frame that it puts in place sees to it. -/
  | passed (frame : FlusherFrame Callback) :
      put = [frame] → attends next.phase frame = true → Care flusher next taken put
  /-- It was not the move's business, and nothing was added to the queue. -/
  | elsewhere : next.phase = flusher.phase → (next.queue ≠ [] → flusher.queue ≠ []) →
      (∀ frame ∈ taken, attends flusher.phase frame = false) → Care flusher next taken put

theorem Care.unchanged {flusher next : Flusher Callback} {frame : FlusherFrame Callback}
    {put : List (FlusherFrame Callback)} (phase : next.phase = flusher.phase)
    (queue : next.queue = flusher.queue) (absent : attends flusher.phase frame = false) :
    Care flusher next [frame] put :=
  .elsewhere phase (fun waiting => queue ▸ waiting)
    fun _ member => (List.mem_singleton.1 member) ▸ absent

theorem Care.replaced {flusher : Flusher Callback} {frame other : FlusherFrame Callback}
    (same : attends flusher.phase other = attends flusher.phase frame) :
    Care flusher flusher [frame] [other] := by
  cases attending : attends flusher.phase frame with
  | true => exact .passed other rfl (same.trans attending)
  | false => exact .unchanged rfl rfl attending

theorem step_care (flusher : Flusher Callback) (task : Task Callback) :
    Care flusher (step flusher task).1 [.task task] (step flusher task).2 := by
  obtain ⟨phase, queue, current, submitted, completed, failed, handed, outstanding⟩ := flusher
  cases task with
  | count entry => exact .unchanged rfl rfl rfl
  | enqueue entry => exact .passed _ rfl rfl
  | iterate | reclaim =>
      cases phase with
      | terminated => exact .passed _ rfl rfl
      | idle | iterating | pending | called => exact .phase rfl
  | take =>
      cases queue with
      | nil => exact .empty rfl
      | cons entry rest =>
          cases phase with
          | terminated => exact .passed _ rfl rfl
          | idle | iterating | pending | called =>
              exact .elsewhere rfl (fun _ => List.cons_ne_nil entry rest) fun _ member =>
                (List.mem_singleton.1 member) ▸ rfl
  | settle =>
      cases phase with
      | iterating | terminated => exact .passed _ rfl rfl
      | idle | pending | called => exact .unchanged rfl rfl rfl
  | look =>
      cases queue with
      | nil => exact .empty rfl
      | cons entry rest => exact .passed _ rfl rfl
  | check entry | refuse entry | hand entry | collect completion | succeed =>
      cases phase with
      | terminated => exact .passed _ rfl rfl
      | idle | iterating | pending | called => exact .unchanged rfl rfl rfl
  | written =>
      cases phase with
      | iterating => exact .phase rfl
      | terminated => exact .passed _ rfl rfl
      | idle | pending | called => exact .unchanged rfl rfl rfl
  | regain =>
      cases phase with
      | called => exact .phase rfl
      | terminated => exact .passed _ rfl rfl
      | idle | iterating | pending => exact .unchanged rfl rfl rfl
  | redeem ticket completion =>
      by_cases unused : ticket ∈ outstanding <;> simp only [step, unused, if_true, if_false] <;>
        exact .unchanged rfl rfl rfl
  | tally callback? completion =>
      cases phase with
      | terminated => cases completion <;> cases callback? <;> exact .passed _ rfl rfl
      | idle | iterating | pending | called =>
          cases completion <;> cases callback? <;> exact .unchanged rfl rfl rfl
  | mark =>
      cases phase with
      | iterating => exact .phase rfl
      | terminated => exact .passed _ rfl rfl
      | idle | pending | called => exact .unchanged rfl rfl rfl
  | resume =>
      cases phase with
      | pending => exact .phase rfl
      | terminated => exact .passed _ rfl rfl
      | idle | iterating | called => exact .unchanged rfl rfl rfl
  | fail => exact .passed _ rfl rfl
  | drain report => exact .empty rfl
  | refuseAll entries report => cases entries <;> exact .unchanged rfl rfl rfl
  | close => exact .passed _ rfl rfl

theorem exchange_care {flusher next : Flusher Callback} {move taken put}
    (exchange : Exchange (component Callback) flusher move taken next put) :
    Care flusher next taken put := by
  cases exchange with
  | work task => exact step_care flusher task
  | begin request => cases request <;> exact .replaced rfl
  | finish request reply =>
      cases request with
      | write ticket entry => exact .replaced rfl
      | notify callback outcome following => exact .replaced rfl
      | failure => exact .unchanged rfl rfl rfl
  | enter method => exact .elsewhere rfl id fun _ member => nomatch member

/-- Some frame looks after what waits in the queue, unless the phase sees to it. -/
def Attended (flusher : Flusher Callback) (frames : Multiset (FlusherFrame Callback)) : Prop :=
  flusher.phase.unattended = true → flusher.queue ≠ [] →
    ∃ frame ∈ frames, attends flusher.phase frame = true

theorem Attended.exchange {flusher next : Flusher Callback} {move taken put}
    {rest : Multiset (FlusherFrame Callback)}
    (exchange : Exchange (component Callback) flusher move taken next put)
    (attended : Attended flusher (↑taken + rest)) : Attended next (↑put + rest) := by
  intro unattended waiting
  cases exchange_care exchange with
  | phase attentive => simp [attentive] at unattended
  | empty nothing => exact absurd nothing waiting
  | passed frame put attending =>
      subst put
      exact ⟨frame, by simp, attending⟩
  | elsewhere phase queue absent =>
      rw [phase] at unattended ⊢
      obtain ⟨frame, member, attending⟩ := attended unattended (queue waiting)
      rcases Multiset.mem_add.1 member with away | still
      · simp [absent frame (Multiset.mem_coe.1 away)] at attending
      · exact ⟨frame, Multiset.mem_add.2 (.inr still), attending⟩

theorem attended_new : Attended (new : Flusher Callback) 0 := fun _ waiting => absurd rfl waiting

end DatagramMux.Flusher
