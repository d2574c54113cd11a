import DatagramMux.Proofs.Connection.Nesting
import DatagramMux.Proofs.Pool.Retention

/-!
# Borrowed buffers

Every read loop borrows one buffer and gives one back when it ends. Between the two there is always
exactly one frame that knows the buffer, so that a pool which nobody else uses has as many buffers
lent as there are read loops under way.
-/

namespace DatagramMux

namespace Connection

open Component

variable {Callback Session : Type}

/-- The buffer that a read loop has borrowed and not given back, in a frame of that loop. -/
def buffer? : ConnectionFrame Callback Session → Option Buffer
  | .call (.fill buffer) | .inside (.fill buffer) | .call (.release buffer _)
  | .task (.countUnidentified buffer) | .task (.countDeclined buffer) | .task (.vet _ _ buffer)
  | .task (.register _ _ buffer) | .task (.countRefused _ buffer) | .task (.confirm _ buffer)
  | .task (.withdraw _ buffer) | .task (.countCreated buffer) | .call (.assign _ _ buffer)
  | .inside (.assign _ _ buffer) | .call (.discard _ buffer) | .inside (.discard _ buffer) =>
      some buffer
  | .task (.countDatagram arrival _) | .task (.countBytes arrival _) | .task (.identify arrival)
  | .task (.route arrival _) | .call (.create arrival _) | .inside (.create arrival _)
  | .call (.process _ arrival _) | .inside (.process _ arrival _) => some arrival.buffer
  | _ => none

/-- Whether a frame belongs to a read loop that has a buffer. -/
def reads (frame : ConnectionFrame Callback Session) : Bool := (buffer? frame).isSome

/-- Whether a buffer is lent. -/
def lends : ConnectionMove Callback Session → Bool
  | .finish (.acquire _ _) _ => true
  | _ => false

/-- Whether a buffer is given back. -/
def restores : ConnectionMove Callback Session → Bool
  | .begin (.release _ _) => true
  | _ => false

/-! ## One loan for each read loop -/

theorem buffer?_liftFlusher (frames : List (Flusher.FlusherFrame Callback)) :
    ∀ frame ∈ (frames.map liftFlusher : List (ConnectionFrame Callback Session)),
      buffer? frame = none :=
  forall_mem_liftFlusher (fun frame => buffer? frame = none) (fun _ => rfl) rfl (fun _ => rfl)
    (fun _ => rfl) frames

theorem buffer?_liftSweep (frames : List (Registry.SweepFrame Session Purpose)) :
    ∀ frame ∈ (frames.map liftSweep : List (ConnectionFrame Callback Session)),
      buffer? frame = none :=
  forall_mem_liftSweep (fun frame => buffer? frame = none) (fun _ => rfl) (fun _ => rfl)
    (fun _ => rfl) (fun _ => rfl) frames

/-- A frame of a read loop with a buffer of some capacity, which is empty if it is to be filled. -/
def Carries (capacity : Nat) (frame : ConnectionFrame Callback Session) : Prop :=
  ∃ buffer, buffer? frame = some buffer ∧ buffer.capacity = capacity ∧
    ∀ other, frame = .call (.fill other) → other.contents = []

theorem Carries.reads {capacity : Nat} {frame : ConnectionFrame Callback Session}
    (carries : Carries capacity frame) : Connection.reads frame = true := by
  obtain ⟨buffer, known, -⟩ := carries
  rw [Connection.reads, known, Option.isSome_some]

theorem carries_fill (buffer : Buffer) :
    Carries buffer.capacity (.call (.fill buffer.clear) : ConnectionFrame Callback Session) := by
  refine ⟨_, rfl, rfl, fun other same => ?_⟩
  cases same
  rfl

/-- Whether a frame is about to give its buffer to the endpoint or to the pool. -/
def gives : ConnectionFrame Callback Session → Bool
  | .call (.fill _) | .call (.release _ _) => true
  | _ => false

/-- A step of a read loop hands the buffer on, either emptied or to somebody who does not fill it. -/
theorem step_carries (connection : Connection Callback Session) {task : Task Callback Session}
    {buffer : Buffer} (known : buffer? (.task task : ConnectionFrame Callback Session) = some buffer) :
    ∃ frame, (step connection task).2 = [frame] ∧ Carries buffer.capacity frame ∧
      ∀ given ending, frame ≠ .call (.release given ending) := by
  have pass {frames : List (ConnectionFrame Callback Session)}
      {frame : ConnectionFrame Callback Session} (single : frames = [frame])
      (known : buffer? frame = some buffer) (kept : gives frame = false) :
      ∃ frame, frames = [frame] ∧ Carries buffer.capacity frame ∧
        ∀ given ending, frame ≠ .call (.release given ending) := by
    refine ⟨frame, single, ⟨buffer, known, rfl, ?_⟩, ?_⟩
    · rintro other rfl
      cases kept
    · rintro given ending rfl
      cases kept
  have next (emptied : Buffer) (same : emptied = buffer) :
      ∃ frame : ConnectionFrame Callback Session, refill emptied = [frame] ∧
        Carries buffer.capacity frame ∧ ∀ given ending, frame ≠ .call (.release given ending) := by
    refine ⟨_, rfl, same ▸ carries_fill emptied, fun given ending released => ?_⟩
    cases released
  cases task with
  | countUnidentified | countDeclined | countCreated =>
      cases known
      exact next _ rfl
  | withdraw identifier buffer =>
      cases known
      simp only [step]
      split
      · exact pass rfl rfl rfl
      · exact next _ rfl
  | countDatagram | countBytes | countRefused =>
      cases known
      exact pass rfl rfl rfl
  | identify | route | vet | register | confirm =>
      cases known
      simp only [step]
      split <;> exact pass rfl rfl rfl
  | _ => cases known

/-- A step of anything else does not know of a buffer. -/
theorem step_buffer? {connection : Connection Callback Session} {task : Task Callback Session}
    (unknown : buffer? (.task task : ConnectionFrame Callback Session) = none) :
    ∀ frame ∈ (step connection task).2, buffer? frame = none := by
  cases task with
  | flusher task => exact buffer?_liftFlusher _
  | sweep task => exact buffer?_liftSweep _
  | hold method => cases method <;> simp [step, begun, buffer?]
  | react | shut | unregister =>
      simp only [step]
      split <;> simp [buffer?]
  | borrow | letGo | countClosed | countUnregistered => simp [step, buffer?]
  | _ => cases unknown

/-- The buffer with which a read loop goes on when a request has been met. -/
def returned? : (request : Request Callback Session) → Reply request → Option Buffer
  | .acquire _ _, buffer => some buffer
  | .fill _, (buffer, _) => some buffer
  | request, _ => buffer? (.inside request : ConnectionFrame Callback Session)

theorem resumed_carries {request : Request Callback Session} {reply : Reply request}
    {buffer : Buffer} (known : returned? request reply = some buffer) :
    ∃ frame, resumed request reply = [frame] ∧ Carries buffer.capacity frame := by
  have pass {frames : List (ConnectionFrame Callback Session)}
      {frame : ConnectionFrame Callback Session} (single : frames = [frame])
      (known : buffer? frame = some buffer) (other : ∀ buffer, frame ≠ .call (.fill buffer)) :
      ∃ frame, frames = [frame] ∧ Carries buffer.capacity frame :=
    ⟨frame, single, buffer, known, rfl, fun filled same => absurd same (other filled)⟩
  cases request with
  | acquire | discard =>
      cases known
      exact ⟨_, rfl, carries_fill _⟩
  | fill =>
      obtain ⟨filled, result⟩ := reply
      cases known
      obtain cause | ⟨- | - | -⟩ := result <;> exact pass rfl rfl nofun
  | create arrival identifier =>
      cases known
      obtain error | - | session := reply <;> exact pass rfl rfl nofun
  | process session arrival identifier =>
      cases known
      obtain error | consumed := reply
      · exact pass rfl rfl nofun
      · exact ⟨_, rfl, carries_fill _⟩
  | assign =>
      cases known
      exact pass rfl rfl nofun
  | _ => cases known

theorem resumed_buffer? {request : Request Callback Session} {reply : Reply request}
    (unknown : returned? request reply = none) :
    ∀ frame ∈ resumed request reply, buffer? frame = none := by
  have single {frame : ConnectionFrame Callback Session} (unknown : buffer? frame = none) :
      ∀ other ∈ [frame], buffer? other = none := List.forall_mem_singleton.2 unknown
  cases request with
  | flusher request => exact buffer?_liftFlusher _
  | sweep request => exact buffer?_liftSweep _
  | release buffer ending => cases ending <;> exact single rfl
  | isOpen =>
      obtain - | - := reply
      · exact fun _ member => nomatch member
      · exact single rfl
  | interest | shutdownOutput | closeEndpoint => exact fun _ member => nomatch member
  | _ => cases unknown

theorem countP_reads_eq_zero {frames : List (ConnectionFrame Callback Session)}
    (unknown : ∀ frame ∈ frames, buffer? frame = none) : frames.countP reads = 0 := by
  rw [List.countP_eq_zero]
  intro frame member
  rw [reads, unknown frame member]
  exact Bool.false_ne_true

theorem countP_reads_eq_one {frames : List (ConnectionFrame Callback Session)} {capacity : Nat}
    (carries : ∃ frame, frames = [frame] ∧ Carries capacity frame) : frames.countP reads = 1 := by
  obtain ⟨frame, rfl, carries⟩ := carries
  rw [List.countP_singleton, if_pos carries.reads]

/-- A frame with a buffer comes when one is lent, and goes when one is given back. -/
theorem exchange_reads {connection next : Connection Callback Session}
    {move : ConnectionMove Callback Session} {taken put : List (ConnectionFrame Callback Session)}
    (exchange : Exchange (component Callback Session) connection move taken next put) :
    put.countP reads + [move].countP restores = taken.countP reads + [move].countP lends := by
  cases exchange with
  | work task =>
      change (step connection task).2.countP reads + 0 = [Frame.task task].countP reads + 0
      cases known : buffer? (.task task : ConnectionFrame Callback Session) with
      | none =>
          rw [countP_reads_eq_zero (step_buffer? known), countP_reads_eq_zero]
          simpa using known
      | some buffer =>
          obtain ⟨frame, single, carries, -⟩ := step_carries connection known
          rw [countP_reads_eq_one ⟨frame, single, carries⟩, List.countP_singleton, reads, known]
          rfl
  | begin request => cases request <;> rfl
  | finish request reply =>
      change (resumed request reply).countP reads + _ = _
      cases known : returned? request reply with
      | none =>
          rw [countP_reads_eq_zero (resumed_buffer? known)]
          cases request <;> first | rfl | cases known
      | some buffer =>
          rw [countP_reads_eq_one (resumed_carries known)]
          cases request <;> first | rfl | cases known
  | enter method => cases method <;> rfl

/-- As many buffers were lent as were given back and are in use by read loops. -/
theorem countP_lends {first last : Connection Callback Session}
    {moves : List (ConnectionMove Callback Session)}
    {stack : List (ConnectionFrame Callback Session)}
    (run : Run (component Callback Session) first [] moves last stack) :
    moves.countP lends = moves.countP restores + stack.countP reads := by
  refine run.invariant_of_step (fun moves _ stack =>
    moves.countP lends = moves.countP restores + stack.countP reads) ?_ rfl
  intro moves connection stack move next nextStack step before
  obtain ⟨taken, put, rest, rfl, rfl, exchange⟩ := step.exchange
  have balance := exchange_reads exchange
  simp only [List.countP_append] at before ⊢
  omega

/-! ## The pool -/

/-- What a pool has become after a move of somebody who borrows from it for a connection. -/
def attend {Task Method : Type} (pool : BufferPool) :
    Move Task (Request Callback Session) Method Reply → BufferPool
  | .finish (.acquire least _) _ => (pool.acquire least).1
  | .begin (.release buffer _) => pool.release buffer
  | _ => pool

theorem counters_attend (pool : BufferPool) (move : ConnectionMove Callback Session) :
    (attend pool move).acquired = pool.acquired + .ofNat ([move].countP lends) ∧
      (attend pool move).released = pool.released + .ofNat ([move].countP restores) := by
  have idle : pool.acquired = pool.acquired + .ofNat 0 ∧ pool.released = pool.released + .ofNat 0 :=
    ⟨(UInt64.add_zero _).symm, (UInt64.add_zero _).symm⟩
  cases move with
  | work | enter => exact idle
  | begin request =>
      cases request with
      | release buffer ending =>
          obtain ⟨acquired, released⟩ := pool.released_release buffer
          exact ⟨acquired.trans idle.1, released⟩
      | _ => exact idle
  | finish request reply =>
      cases request with
      | acquire least direct =>
          obtain ⟨acquired, released⟩ := pool.acquired_acquire least
          exact ⟨acquired, released.trans idle.2⟩
      | _ => exact idle

theorem counters_foldl_attend (pool : BufferPool) (moves : List (ConnectionMove Callback Session)) :
    (moves.foldl attend pool).acquired = pool.acquired + .ofNat (moves.countP lends) ∧
      (moves.foldl attend pool).released = pool.released + .ofNat (moves.countP restores) := by
  induction moves generalizing pool with
  | nil => exact ⟨(UInt64.add_zero _).symm, (UInt64.add_zero _).symm⟩
  | cons move moves ih =>
      obtain ⟨acquired, released⟩ := counters_attend pool move
      have first (counted : ConnectionMove Callback Session → Bool) :
          (move :: moves).countP counted = [move].countP counted + moves.countP counted := by
        rw [← List.countP_append, List.singleton_append]
      rw [List.foldl_cons, (ih _).1, (ih _).2, acquired, released, first, first, UInt64.ofNat_add,
        UInt64.ofNat_add, UInt64.add_assoc, UInt64.add_assoc]
      exact ⟨rfl, rfl⟩

/-- What a pool that nobody else has used tells of the buffers that are lent. -/
structure Lent (pool : BufferPool) (loops : Nat) (loans : Nat) : Prop where
  difference : pool.acquired - pool.released = .ofNat loops
  none : loops = 0 → pool.outstanding = 0
  /-- Unless a counter has wrapped around. -/
  exact : loans < 2 ^ 64 → pool.outstanding.toNat = loops

/-- A pool that nobody else uses has as many buffers lent as there are read loops under way. -/
theorem lent_of_run (limit : Nat) {first last : Connection Callback Session}
    {moves : List (ConnectionMove Callback Session)}
    {stack : List (ConnectionFrame Callback Session)}
    (run : Run (component Callback Session) first [] moves last stack) :
    Lent (moves.foldl attend (.new limit)) (stack.countP reads) (moves.countP lends) := by
  have loans := countP_lends run
  obtain ⟨acquired, released⟩ := counters_foldl_attend (.new limit) moves
  generalize moves.foldl attend (.new limit) = pool at acquired released
  generalize moves.countP lends = lent at loans acquired
  generalize moves.countP restores = restored at loans released
  generalize stack.countP reads = loops at loans
  simp only [BufferPool.new, UInt64.zero_add] at acquired released
  rw [loans] at acquired ⊢
  have difference := BufferPool.acquired_sub_released acquired released
  refine ⟨difference, fun none => ?_, BufferPool.toNat_outstanding acquired released⟩
  rw [BufferPool.outstanding, difference, none]
  exact ite_self 0

end Connection

end DatagramMux
