import DatagramMux.Proofs.Connection.Arrivals
import DatagramMux.Proofs.Connection.Loans
import DatagramMux.Proofs.Machine.Visit

/-!
# The ways out of a read loop

Every call of the read loop, from outside or from inside another one, borrows one buffer and fills it,
emptied, time and again until something ends the loop. Then it gives the buffer back, and what it does
after that depends on what has ended the loop.
-/

namespace DatagramMux.Connection

open Component

variable {Callback Session : Type}

/-! ## What a call does to the pool and the endpoint -/

/-- What a call of the read loop has to do with the pool and the endpoint. -/
inductive Deed where
  /-- It has borrowed a buffer. -/
  | acquire (least : Nat) (direct : Bool)
  | fill (buffer : Buffer)
  /-- It has learnt what ends the loop. -/
  | stop (ending : Ending)
  | release
  | shutdownOutput
  | interest
  /-- It has learnt whether the endpoint is open. -/
  | learn (isOpen : Bool)
  | write
  | closeEndpoint
  deriving DecidableEq

def deed? : ConnectionMove Callback Session → Option Deed
  | .finish (.acquire least direct) _ => some (.acquire least direct)
  | .begin (.fill buffer) => some (.fill buffer)
  | .finish (.fill _) (_, .ok .closed) => some (.stop .closed)
  | .finish (.fill _) (_, .ok .empty) => some (.stop .empty)
  | .finish (.fill _) (_, .error cause) => some (.stop (.failed (.io cause)))
  | .finish (.create _ _) (.error error) => some (.stop (.failed error))
  | .finish (.process _ _ _) (.error error) => some (.stop (.failed error))
  | .begin (.release _ _) => some .release
  | .begin .shutdownOutput => some .shutdownOutput
  | .begin .interest => some .interest
  | .finish .isOpen isOpen => some (.learn isOpen)
  | .begin (.flusher (.write _ _)) => some .write
  | .begin .closeEndpoint => some .closeEndpoint
  | _ => none

/-- What is done after the buffer was given back. -/
def aftermath : Ending → Bool → List Deed
  | .closed, _ => [.shutdownOutput]
  | .empty, _ => [.interest]
  | .failed _, isOpen => .learn isOpen :: if isOpen then [.interest] else []

/-- What is done by a read loop that has its buffer, and after it. -/
def Remainder (deeds : List Deed) : Prop :=
  ∃ (fills : List Buffer) (ending : Ending) (isOpen : Bool),
    (∀ buffer ∈ fills, buffer.contents = []) ∧
      deeds = fills.map .fill ++ .stop ending :: .release :: aftermath ending isOpen

/-- All that is done by a call of the read loop. -/
def Whole (config : Config) (deeds : List Deed) : Prop :=
  ∃ remainder, Remainder remainder ∧
    deeds = .acquire config.readBufferSize.toNat config.directBuffers :: remainder

/-! ## What the frames of a call have still to do -/

inductive LoopStage where
  | borrowing
  | reading
  | restoring (ending : Ending)
  | restored (ending : Ending)
  | asking
  /-- Nothing but certain deeds is left. -/
  | finishing (deeds : List Deed)

/-- What may be done from a stage on. -/
def LoopStage.Leaves (config : Config) (deeds : List Deed) : LoopStage → Prop
  | .borrowing => Whole config deeds
  | .reading => Remainder deeds
  | .restoring ending => ∃ isOpen, deeds = .release :: aftermath ending isOpen
  | .restored ending => ∃ isOpen, deeds = aftermath ending isOpen
  | .asking => ∃ isOpen : Bool, deeds = .learn isOpen :: if isOpen then [.interest] else []
  | .finishing left => deeds = left

def loopStage : ConnectionFrame Callback Session → LoopStage
  | .task (.hold _) | .task .borrow | .call (.acquire _ _) | .inside (.acquire _ _) => .borrowing
  | .call (.release _ ending) => .restoring ending
  | .inside (.release _ ending) => .restored ending
  | .call .isOpen | .inside .isOpen => .asking
  | .call .shutdownOutput => .finishing [.shutdownOutput]
  | .call .interest => .finishing [.interest]
  | .inside .shutdownOutput | .inside .interest | .task .letGo => .finishing []
  | _ => .reading

/-- The stage of a call with these frames of its own. -/
def stageOf : List (ConnectionFrame Callback Session) → LoopStage
  | [] => .finishing []
  | frame :: _ => loopStage frame

/-- The frames by which a call of the read loop may be carried out. -/
inductive LoopFrame (config : Config) : ConnectionFrame Callback Session → Prop where
  | borrow : LoopFrame config (.task .borrow)
  | acquire :
      LoopFrame config (.call (.acquire config.readBufferSize.toNat config.directBuffers))
  | acquiring :
      LoopFrame config (.inside (.acquire config.readBufferSize.toNat config.directBuffers))
  | carry {capacity : Nat} {frame : ConnectionFrame Callback Session} :
      Carries capacity frame → LoopFrame config frame
  | releasing (buffer : Buffer) (ending : Ending) : LoopFrame config (.inside (.release buffer ending))
  | isOpen : LoopFrame config (.call .isOpen)
  | asking : LoopFrame config (.inside .isOpen)
  | shutdownOutput : LoopFrame config (.call .shutdownOutput)
  | shuttingOutput : LoopFrame config (.inside .shutdownOutput)
  | interest : LoopFrame config (.call .interest)
  | arming : LoopFrame config (.inside .interest)

/-- The stacks of which a call of the read loop may consist. -/
inductive LoopStack (config : Config) : List (ConnectionFrame Callback Session) → Prop where
  | enter : LoopStack config [.task (.hold .fillable)]
  | inner {frame : ConnectionFrame Callback Session} :
      LoopFrame config frame → LoopStack config [frame, .task .letGo]
  | leave : LoopStack config [.task .letGo]
  | left : LoopStack config []

variable {connection next : Connection Callback Session}
variable {nextStack : List (ConnectionFrame Callback Session)}
variable {move : ConnectionMove Callback Session}

/-- What a move does belongs to what its stage leaves to be done. -/
def Moves (config : Config) (stack nextStack : List (ConnectionFrame Callback Session))
    (move : ConnectionMove Callback Session) : Prop :=
  LoopStack config nextStack ∧ ∀ deeds, (stageOf nextStack).Leaves config deeds →
    (stageOf stack).Leaves config ((deed? move).toList ++ deeds)

theorem stage_of_carries {capacity : Nat} {frame : ConnectionFrame Callback Session}
    (carries : Carries capacity frame) (kept : ∀ given ending, frame ≠ .call (.release given ending)) :
    loopStage frame = .reading := by
  obtain ⟨buffer, known, -⟩ := carries
  cases frame with
  | task task => cases task <;> first | rfl | cases known
  | call request =>
      cases request with
      | release given ending => exact absurd rfl (kept given ending)
      | _ => first | rfl | cases known
  | inside request => cases request <;> first | rfl | cases known

theorem Remainder.fill {buffer : Buffer} {deeds : List Deed} (empty : buffer.contents = [])
    (remainder : Remainder deeds) : Remainder (.fill buffer :: deeds) := by
  obtain ⟨fills, ending, isOpen, emptied, rfl⟩ := remainder
  exact ⟨buffer :: fills, ending, isOpen, List.forall_mem_cons.2 ⟨empty, emptied⟩, rfl⟩

theorem Remainder.stop {ending : Ending} {deeds : List Deed}
    (left : ∃ isOpen, deeds = .release :: aftermath ending isOpen) :
    Remainder (.stop ending :: deeds) := by
  obtain ⟨isOpen, rfl⟩ := left
  exact ⟨[], ending, isOpen, List.forall_mem_nil _, rfl⟩

theorem moves_begin {config : Config} {capacity : Nat} {request : Request Callback Session}
    (carries : Carries capacity (.call request)) :
    Moves config [.call request, .task .letGo] [.inside request, .task .letGo] (.begin request) := by
  obtain ⟨buffer, known, room, empty⟩ := carries
  cases request with
  | fill buffer =>
      exact ⟨.inner (.carry ⟨buffer, rfl, rfl, nofun⟩), fun deeds left => left.fill (empty _ rfl)⟩
  | release buffer ending =>
      refine ⟨.inner (.releasing buffer ending), fun deeds left => ?_⟩
      obtain ⟨isOpen, rfl⟩ := left
      exact ⟨isOpen, rfl⟩
  | create | process | assign | discard =>
      exact ⟨.inner (.carry ⟨buffer, known, rfl, nofun⟩), fun deeds left => left⟩
  | _ => cases known

theorem moves_finish {config : Config} {capacity : Nat} {request : Request Callback Session}
    (carries : Carries capacity (.inside request)) (reply : Reply request) :
    Moves config [.inside request, .task .letGo] (resumed request reply ++ [.task .letGo])
      (.finish request reply) := by
  obtain ⟨buffer, known, -⟩ := carries
  have next (buffer : Buffer) : LoopStack config
      [.call (.fill buffer.clear), (.task .letGo : ConnectionFrame Callback Session)] :=
    .inner (.carry (carries_fill buffer))
  have stopped (buffer : Buffer) (ending : Ending) : LoopStack config
      [.call (.release buffer ending), (.task .letGo : ConnectionFrame Callback Session)] :=
    .inner (.carry ⟨buffer, rfl, rfl, nofun⟩)
  have pass {frame : ConnectionFrame Callback Session} (known : buffer? frame = some buffer)
      (kept : ∀ buffer, frame ≠ .call (.fill buffer)) : LoopStack config [frame, .task .letGo] :=
    .inner (.carry ⟨buffer, known, rfl, fun filled same => absurd same (kept filled)⟩)
  cases request with
  | fill asked =>
      obtain ⟨filled, cause | ⟨- | - | ⟨length, remote⟩⟩⟩ := reply
      · exact ⟨stopped _ _, fun deeds left => .stop left⟩
      · exact ⟨stopped _ _, fun deeds left => .stop left⟩
      · exact ⟨stopped _ _, fun deeds left => .stop left⟩
      · exact ⟨.inner (.carry ⟨filled, rfl, rfl, nofun⟩), fun deeds left => left⟩
  | create arrival identifier =>
      cases known
      obtain error | - | session := reply
      · exact ⟨stopped _ _, fun deeds left => .stop left⟩
      · exact ⟨pass rfl nofun, fun deeds left => left⟩
      · exact ⟨pass rfl nofun, fun deeds left => left⟩
  | process session arrival identifier =>
      obtain error | consumed := reply
      · exact ⟨stopped _ _, fun deeds left => .stop left⟩
      · exact ⟨next _, fun deeds left => left⟩
  | assign =>
      cases known
      exact ⟨pass rfl nofun, fun deeds left => left⟩
  | discard => exact ⟨next _, fun deeds left => left⟩
  | _ => cases known

theorem moves_carry {config : Config} {capacity : Nat} {frame : ConnectionFrame Callback Session}
    (carries : Carries capacity frame)
    (step : Step (component Callback Session) connection [frame, .task .letGo] move next nextStack)
    (mine : ∀ method, move ≠ .enter method) : Moves config [frame, .task .letGo] nextStack move := by
  cases step with
  | work task rest free =>
      obtain ⟨buffer, known, -⟩ := id carries
      obtain ⟨onward, single, carriesOn, kept⟩ := step_carries connection known
      change Moves config _ ((step connection task).2 ++ [.task .letGo]) _
      rw [single]
      refine ⟨.inner (.carry carriesOn), fun deeds left => ?_⟩
      change (loopStage onward).Leaves config deeds at left
      change (loopStage (.task task : ConnectionFrame Callback Session)).Leaves config deeds
      rw [stage_of_carries carriesOn kept] at left
      rw [stage_of_carries carries nofun]
      exact left
  | «begin» request rest => exact moves_begin carries
  | finish request reply rest => exact moves_finish carries reply
  | enter method stack enterable => exact absurd rfl (mine method)

/-- Every move of a call is one that its stage allows, and leads to a stage of a call. -/
theorem LoopStack.moves {stack : List (ConnectionFrame Callback Session)}
    (own : LoopStack connection.config stack)
    (step : Step (component Callback Session) connection stack move next nextStack)
    (mine : ∀ method, move ≠ .enter method) :
    Moves connection.config stack nextStack move := by
  cases own with
  | inner inner =>
      cases inner with
      | carry carries => exact moves_carry carries step mine
      | borrow =>
          cases step with
          | work => exact ⟨.inner .acquire, fun deeds left => left⟩
          | enter => exact absurd rfl (mine _)
      | acquire =>
          cases step with
          | «begin» => exact ⟨.inner .acquiring, fun deeds left => left⟩
          | enter => exact absurd rfl (mine _)
      | acquiring =>
          cases step with
          | finish _ buffer =>
              exact ⟨.inner (.carry (carries_fill buffer)), fun deeds left => ⟨deeds, left, rfl⟩⟩
          | enter => exact absurd rfl (mine _)
      | releasing buffer ending =>
          cases step with
          | finish =>
              cases ending with
              | closed => exact ⟨.inner .shutdownOutput, fun deeds left => ⟨true, left⟩⟩
              | empty => exact ⟨.inner .interest, fun deeds left => ⟨true, left⟩⟩
              | failed error => exact ⟨.inner .isOpen, fun deeds left => left⟩
          | enter => exact absurd rfl (mine _)
      | isOpen =>
          cases step with
          | «begin» => exact ⟨.inner .asking, fun deeds left => left⟩
          | enter => exact absurd rfl (mine _)
      | asking =>
          cases step with
          | finish _ isOpen =>
              obtain - | - := isOpen
              · exact ⟨.leave, fun deeds left => ⟨false, congrArg _ left⟩⟩
              · exact ⟨.inner .interest, fun deeds left => ⟨true, congrArg _ left⟩⟩
          | enter => exact absurd rfl (mine _)
      | shutdownOutput =>
          cases step with
          | «begin» => exact ⟨.inner .shuttingOutput, fun deeds left => congrArg _ left⟩
          | enter => exact absurd rfl (mine _)
      | interest =>
          cases step with
          | «begin» => exact ⟨.inner .arming, fun deeds left => congrArg _ left⟩
          | enter => exact absurd rfl (mine _)
      | shuttingOutput | arming =>
          cases step with
          | finish => exact ⟨.leave, fun deeds left => left⟩
          | enter => exact absurd rfl (mine _)
  | enter =>
      cases step with
      | work => exact ⟨.inner .borrow, fun deeds left => left⟩
      | enter => exact absurd rfl (mine _)
  | leave =>
      cases step with
      | work => exact ⟨.left, fun deeds left => left⟩
      | enter => exact absurd rfl (mine _)
  | left =>
      cases step with
      | enter => exact absurd rfl (mine _)

/-- Whatever a stage leaves, something may be done from there on. -/
theorem LoopStage.exists_leaves (config : Config) (stage : LoopStage) :
    ∃ deeds, stage.Leaves config deeds := by
  have remainder : Remainder (.stop .closed :: .release :: aftermath .closed true) :=
    ⟨[], .closed, true, List.forall_mem_nil _, rfl⟩
  cases stage with
  | borrowing => exact ⟨_, _, remainder, rfl⟩
  | reading => exact ⟨_, remainder⟩
  | restoring | restored | asking => exact ⟨_, true, rfl⟩
  | finishing left => exact ⟨left, rfl⟩

theorem config_of_step {stack : List (ConnectionFrame Callback Session)}
    (step : Step (component Callback Session) connection stack move next nextStack) :
    next.config = connection.config := by
  cases step with
  | work task => exact config_step connection task
  | «begin» | finish | enter => rfl

variable {first last : Connection Callback Session}
variable {moves mine : List (ConnectionMove Callback Session)}
variable {stack above : List (ConnectionFrame Callback Session)}

/-- What a call has done, with what it still has to do, is all that a call does. -/
theorem own_of_visit
    (visit : Visit (component Callback Session) .fillable first moves mine last stack above) :
    last.config = first.config ∧ LoopStack first.config stack ∧
      ∀ deeds, (stageOf stack).Leaves first.config deeds →
        Whole first.config (mine.filterMap deed? ++ deeds) := by
  induction visit with
  | enter => exact ⟨rfl, .enter, fun deeds left => left⟩
  | own visit step method ih =>
      obtain ⟨config, own, whole⟩ := ih
      have moved := LoopStack.moves (config ▸ own) step method
      rw [config] at moved
      refine ⟨(config_of_step step).trans config, moved.1, fun deeds left => ?_⟩
      rw [List.filterMap_append, filterMap_singleton, List.append_assoc]
      exact whole _ (moved.2 deeds left)
  | between visit here step alone ih =>
      obtain ⟨config, own, whole⟩ := ih
      exact ⟨(config_of_step step).trans config, own, whole⟩

/-- A call has a buffer while one of its frames knows it. -/
theorem loan_of_visit
    (visit : Visit (component Callback Session) .fillable first moves mine last stack above) :
    mine.countP lends = mine.countP restores + stack.countP reads := by
  induction visit with
  | enter => rfl
  | own visit step method ih =>
      obtain ⟨taken, put, rest, rfl, rfl, exchange⟩ := step.exchange
      have balance := exchange_reads exchange
      simp only [List.countP_append] at ih ⊢
      omega
  | between visit here step alone ih => exact ih

/--
Every call of the read loop, wherever it is made and whatever comes in between, borrows one buffer,
has it filled empty each time until something ends the loop, gives one buffer back, and then does to
the endpoint what the ending demands. So a pool that nobody else uses has one buffer lent for each
read loop under way, and none when the connection has been left.
-/
theorem read_loop_exits (Callback Session : Type) :
    (∀ (first last : Connection Callback Session) (moves : List (ConnectionMove Callback Session))
        (below stack : List (ConnectionFrame Callback Session)),
      Run (component Callback Session) first
          ((component Callback Session).body .fillable ++ below) moves last stack →
        (∃ mine own above,
            Visit (component Callback Session) .fillable first moves mine last own above ∧
              own ≠ [] ∧ stack = above ++ (own ++ below) ∧
                (∃ left, Whole first.config (mine.filterMap deed? ++ left)) ∧
                  mine.countP lends = mine.countP restores + own.countP reads) ∨
          ∃ before later mine middle, moves = before ++ later ∧
            Visit (component Callback Session) .fillable first before mine middle [] [] ∧
              Run (component Callback Session) middle below later last stack ∧
                Whole first.config (mine.filterMap deed?)) ∧
      ∀ (limit : Nat) (first last : Connection Callback Session)
          (moves : List (ConnectionMove Callback Session))
          (stack : List (ConnectionFrame Callback Session)),
        Run (component Callback Session) first [] moves last stack →
          Lent (moves.foldl attend (.new limit)) (stack.countP reads) (moves.countP lends) := by
  refine ⟨fun first last moves below stack run => ?_, fun limit _ _ _ _ run => lent_of_run limit run⟩
  rcases Visit.covers_of_run run with
    ⟨mine, own, above, visit, here, split⟩ | ⟨before, later, mine, middle, split, visit, onward⟩
  · obtain ⟨left, leaves⟩ := (stageOf own).exists_leaves first.config
    exact .inl ⟨mine, own, above, visit, here, split,
      ⟨left, (own_of_visit visit).2.2 left leaves⟩, loan_of_visit visit⟩
  · have whole := (own_of_visit visit).2.2 [] rfl
    rw [List.append_nil] at whole
    exact .inr ⟨before, later, mine, middle, split, visit, onward, whole⟩

/-- While the factory creates a session for a datagram, another read loop has its buffer filled. -/
def twoLoops : List (Choice (Request Nat Nat) (Method Nat) Reply) :=
  awaiting ++ arrival 17 ++ awaiting

theorem lent_in_twoLoops :
    let inner := Trace.follow (component Nat Nat) {} twoLoops
    let left := Trace.follow (component Nat Nat) {}
      (twoLoops ++ giveUp .empty ++ creation ++ giveUp .closed)
    (inner.moves.foldl attend (.new 64)).outstanding.toNat = 2 ∧
      left.stack = [] ∧ left.moves.countP lends = 2 ∧
        (left.moves.foldl attend (.new 64)).outstanding = 0 := by
  intro inner left
  have lent := (read_loop_exits Nat Nat).2 64 _ _ _ _ (Trace.run_follow (component Nat Nat) {} twoLoops)
  have back := (read_loop_exits Nat Nat).2 64 _ _ _ _ (Trace.run_follow (component Nat Nat) {}
    (twoLoops ++ giveUp .empty ++ creation ++ giveUp .closed))
  have loans : inner.moves.countP lends = 2 := rfl
  have loops : inner.stack.countP reads = 2 := rfl
  exact ⟨(lent.exact (by rw [loans]; decide)).trans loops, rfl, rfl, back.none rfl⟩

end DatagramMux.Connection
