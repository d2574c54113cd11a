import DatagramMux.Flusher.Steps
import DatagramMux.Proofs.Machine.Exchange

/-!
# Who owns the flusher

At any time at most one party is responsible for the next write: a thread that iterates, or whoever
holds the ticket of the write at the endpoint. The phase tells which. This module gives each frame
its role in this, lists the turns by which a step may hand the responsibility on, and proves that
the number of frames in each role stays in line with the phase.
-/

namespace DatagramMux.Flusher

open Component

variable {Callback : Type}

/-- What a frame has to do with the write that is under way or about to be made. -/
inductive Role where
  /-- It will take an entry from the queue or has taken one. -/
  | preparing
  /-- It is in the endpoint's write or looks what has become of it. -/
  | writing
  /-- It has found the write completed and goes on. -/
  | regaining
  /-- It reports a completion and has not yet taken the callback. -/
  | collecting
  /-- It reports a completion and has taken the callback. -/
  | answering
  /-- It will empty the queue of the terminated flusher. -/
  | draining
  deriving DecidableEq

def Task.role : Task Callback → Option Role
  | .take | .settle | .check _ | .hand _ => some .preparing
  | .written => some .writing
  | .regain => some .regaining
  | .collect _ => some .collecting
  | .tally _ _ | .succeed | .mark | .resume | .fail => some .answering
  | .refuse _ | .drain _ => some .draining
  | .count _ | .enqueue _ | .iterate | .look | .reclaim | .redeem _ _ | .refuseAll _ _ | .close =>
      none

/-- The role of a frame; a callback is called in the role of what follows it. -/
def role : FlusherFrame Callback → Option Role
  | .task task => task.role
  | .call (.write _ _) | .inside (.write _ _) => some .writing
  | .call (.notify _ _ next) | .inside (.notify _ _ next) => next.role
  | .call .failure | .inside .failure => none

/-- One for a role that is wanted and nothing for any other. -/
def Role.share (wanted : Role) (found : Option Role) : Nat :=
  if found = some wanted then 1 else 0

/-- The number of frames in a role. -/
def inRole (wanted : Role) (frames : Multiset (FlusherFrame Callback)) : Nat :=
  total (fun frame => wanted.share (role frame)) frames

/-! ## Turns -/

/-- Whether a frame may be in a role in this phase. -/
def Phase.hosts : Phase → Role → Bool
  | .idle, _ => false
  | .iterating, role => role ≠ .regaining ∧ role ≠ .draining
  | .pending, role => role = .collecting ∨ role = .answering
  | .called, role => role = .writing ∨ role = .regaining
  | .terminated, _ => true

/--
How a step may change the phase, the number of unused tickets and the role of the frame that it
replaces.
-/
inductive Turn : Phase → Nat → Option Role → Phase → Nat → Option Role → Prop where
  | keep (phase : Phase) (unused : Nat) (role : Option Role) : Turn phase unused role phase unused role
  | claim (unused : Nat) : Turn .idle unused none .iterating unused (some .preparing)
  | release (unused : Nat) : Turn .iterating unused (some .preparing) .idle unused none
  | hand (phase : Phase) (unused : Nat) :
      Turn phase unused (some .preparing) phase (unused + 1) (some .writing)
  | wait (unused : Nat) : Turn .iterating unused (some .writing) .pending unused none
  | find (unused : Nat) : Turn .called unused (some .writing) .called unused (some .regaining)
  | regain (unused : Nat) :
      Turn .called unused (some .regaining) .iterating unused (some .preparing)
  | redeem (phase : Phase) (unused : Nat) :
      Turn phase (unused + 1) none phase unused (some .collecting)
  | collect (phase : Phase) (unused : Nat) :
      Turn phase unused (some .collecting) phase unused (some .answering)
  | mark (unused : Nat) : Turn .iterating unused (some .answering) .called unused none
  | resume (unused : Nat) :
      Turn .pending unused (some .answering) .iterating unused (some .preparing)
  | fail (phase : Phase) (unused : Nat) :
      Turn phase unused (some .answering) .terminated unused (some .draining)
  | close (phase : Phase) (unused : Nat) :
      Turn phase unused none .terminated unused (some .draining)
  | leave (unused : Nat) (role : Option Role) :
      Turn .terminated unused role .terminated unused (some .draining)
  | drain (phase : Phase) (unused : Nat) : Turn phase unused (some .draining) phase unused none
  /-- A frame that is out of place; this does not happen. -/
  | stray (phase : Phase) (unused : Nat) (role : Role) (next : Option Role) :
      phase.hosts role = false → Turn phase unused (some role) phase unused next

/-- The role of the first of some frames; a move of the flusher never deals with more than one. -/
def headRole (frames : List (FlusherFrame Callback)) : Option Role := frames.head?.bind role

theorem step_turn (flusher : Flusher Callback) (task : Task Callback) :
    Turn flusher.phase flusher.outstanding.length task.role (step flusher task).1.phase
      (step flusher task).1.outstanding.length (headRole (step flusher task).2) := by
  obtain ⟨phase, queue, current, submitted, completed, failed, handed, outstanding⟩ := flusher
  cases task with
  | count entry => exact .keep _ _ _
  | enqueue entry => exact .keep _ _ _
  | iterate | reclaim =>
      cases phase with
      | idle => exact .claim _
      | terminated => exact .leave _ _
      | iterating | pending | called => exact .keep _ _ _
  | take => cases queue <;> exact .keep _ _ _
  | settle =>
      cases phase with
      | iterating => exact .release _
      | terminated => exact .leave _ _
      | idle | pending | called => exact .stray _ _ _ _ rfl
  | look => cases queue <;> exact .keep _ _ _
  | check entry =>
      cases phase with
      | terminated => exact .leave _ _
      | idle | iterating | pending | called => exact .keep _ _ _
  | refuse entry => exact .keep _ _ _
  | hand entry =>
      simp only [step, List.length_append, List.length_singleton]
      exact .hand _ _
  | written =>
      cases phase with
      | iterating => exact .wait _
      | called => exact .find _
      | terminated => exact .leave _ _
      | idle | pending => exact .stray _ _ _ _ rfl
  | regain =>
      cases phase with
      | called => exact .regain _
      | terminated => exact .leave _ _
      | idle | iterating | pending => exact .stray _ _ _ _ rfl
  | redeem ticket completion =>
      by_cases unused : ticket ∈ outstanding
      · obtain ⟨fewer, length⟩ := Nat.exists_eq_add_one.2 (List.length_pos_of_mem unused)
        simp only [step, unused, if_true, List.length_erase_of_mem unused, length]
        exact .redeem _ _
      · simp only [step, unused, if_false]
        exact .keep _ _ _
  | collect completion => exact .collect _ _
  | tally callback? completion => cases completion <;> cases callback? <;> exact .keep _ _ _
  | succeed =>
      cases phase with
      | iterating | pending => exact .keep _ _ _
      | terminated => exact .leave _ _
      | idle | called => exact .stray _ _ _ _ rfl
  | mark =>
      cases phase with
      | iterating => exact .mark _
      | idle | pending | called | terminated => exact .keep _ _ _
  | resume =>
      cases phase with
      | pending => exact .resume _
      | idle | iterating | called | terminated => exact .keep _ _ _
  | fail => exact .fail _ _
  | drain report => exact .drain _ _
  | refuseAll entries report =>
      cases entries with
      | nil => cases report <;> exact .keep _ _ _
      | cons => exact .keep _ _ _
  | close => exact .close _ _

/-! ## Frames in line with the phase -/

/--
The numbers of frames that prepare a write, are in a write, have regained the iteration and will
empty the queue, and the number of completions that are still to come or being reported, as the
phase admits them.
-/
def Phase.Admits (phase : Phase) (preparing writing regaining awaited draining : Nat) : Prop :=
  match phase with
  | .idle => preparing = 0 ∧ writing = 0 ∧ regaining = 0 ∧ awaited = 0 ∧ draining = 0
  | .iterating => preparing + writing = 1 ∧ regaining = 0 ∧ awaited = writing ∧ draining = 0
  | .pending => preparing = 0 ∧ writing = 0 ∧ regaining = 0 ∧ awaited = 1 ∧ draining = 0
  | .called => preparing = 0 ∧ writing + regaining = 1 ∧ awaited = 0 ∧ draining = 0
  | .terminated => preparing + writing + regaining ≤ 1 ∧ preparing + regaining + awaited ≤ 1

theorem Phase.Admits.turn {phase next : Phase} {unused unusedNext : Nat}
    {role roleNext : Option Role} {preparing writing regaining collecting answering draining : Nat}
    (turn : Turn phase unused role next unusedNext roleNext)
    (admits : phase.Admits (Role.preparing.share role + preparing)
      (Role.writing.share role + writing) (Role.regaining.share role + regaining)
      (unused + (Role.collecting.share role + collecting) +
        (Role.answering.share role + answering)) (Role.draining.share role + draining)) :
    next.Admits (Role.preparing.share roleNext + preparing)
      (Role.writing.share roleNext + writing) (Role.regaining.share roleNext + regaining)
      (unusedNext + (Role.collecting.share roleNext + collecting) +
        (Role.answering.share roleNext + answering)) (Role.draining.share roleNext + draining) := by
  cases turn with
  | keep => exact admits
  | hand | redeem | collect | fail | close | drain =>
      cases phase <;> simp [Phase.Admits, Role.share] at admits ⊢ <;> omega
  | claim | release | wait | find | regain | mark | resume =>
      simp [Phase.Admits, Role.share] at admits ⊢
      omega
  | leave _ role =>
      simp only [Phase.Admits, Role.share, reduceCtorEq, if_false, Option.some.injEq] at admits ⊢
      omega
  | stray _ _ role _ misplaced =>
      cases phase <;> cases role <;> simp [Phase.hosts] at misplaced <;>
        simp [Phase.Admits, Role.share] at admits

/-- The completions that are still to come or being reported. -/
def awaited (flusher : Flusher Callback) (frames : Multiset (FlusherFrame Callback)) : Nat :=
  flusher.outstanding.length + inRole .collecting frames + inRole .answering frames

/-- The frames are in line with the phase. -/
def Owned (flusher : Flusher Callback) (frames : Multiset (FlusherFrame Callback)) : Prop :=
  flusher.phase.Admits (inRole .preparing frames) (inRole .writing frames)
    (inRole .regaining frames) (awaited flusher frames) (inRole .draining frames)

theorem length_step_le (flusher : Flusher Callback) (task : Task Callback) :
    (step flusher task).2.length ≤ 1 := by
  fun_cases step flusher task with
  | case46 report => cases report <;> simp
  | _ => simp

theorem length_exchange_le {flusher next : Flusher Callback} {move taken put}
    (exchange : Exchange (component Callback) flusher move taken next put) :
    taken.length ≤ 1 ∧ put.length ≤ 1 := by
  cases exchange with
  | work task => exact ⟨Nat.le_refl 1, length_step_le flusher task⟩
  | begin request => exact ⟨Nat.le_refl 1, Nat.le_refl 1⟩
  | finish request reply => cases request <;> simp [component, resumed]
  | enter method => simp [component]

theorem exchange_turn {flusher next : Flusher Callback} {move taken put}
    (exchange : Exchange (component Callback) flusher move taken next put) :
    Turn flusher.phase flusher.outstanding.length (headRole taken) next.phase
      next.outstanding.length (headRole put) := by
  cases exchange with
  | work task => exact step_turn flusher task
  | begin request => cases request <;> exact .keep _ _ _
  | finish request reply => cases request <;> exact .keep _ _ _
  | enter method => cases method <;> exact .keep _ _ _

theorem inRole_add {frames : List (FlusherFrame Callback)} (single : frames.length ≤ 1)
    (wanted : Role) (rest : Multiset (FlusherFrame Callback)) :
    inRole wanted ((frames : Multiset (FlusherFrame Callback)) + rest) =
      wanted.share (headRole frames) + inRole wanted rest := by
  unfold inRole
  rw [total_add, total_coe]
  rcases frames with - | ⟨frame, - | ⟨second, frames⟩⟩
  · simp [headRole, Role.share]
  · simp [headRole]
  · simp at single

theorem inRole_pos {wanted : Role} {frame : FlusherFrame Callback}
    {frames : Multiset (FlusherFrame Callback)} (member : frame ∈ frames)
    (found : role frame = some wanted) : 0 < inRole wanted frames := by
  obtain ⟨others, rfl⟩ := Multiset.exists_cons_of_mem member
  rw [inRole, total_cons, Role.share, if_pos found]
  omega

theorem Owned.exchange {flusher next : Flusher Callback} {move taken put}
    {rest : Multiset (FlusherFrame Callback)}
    (exchange : Exchange (component Callback) flusher move taken next put)
    (owned : Owned flusher (↑taken + rest)) : Owned next (↑put + rest) := by
  obtain ⟨takenSingle, putSingle⟩ := length_exchange_le exchange
  simp only [Owned, awaited, inRole_add takenSingle, inRole_add putSingle] at owned ⊢
  exact owned.turn (exchange_turn exchange)

theorem owned_new : Owned (new : Flusher Callback) 0 := ⟨rfl, rfl, rfl, rfl, rfl⟩

end DatagramMux.Flusher
