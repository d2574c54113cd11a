import DatagramMux.Proofs.Flusher.Reentrancy
import DatagramMux.Proofs.Machine.Thread
import Mathlib.Data.List.DropRight

/-!
# Reporting a completion

Whoever reports that a write succeeded tries to leave a mark for the thread that iterates, or to go on
iterating in its place. If the phase changes in between, it looks again. While it does so, the phase
can only go from iterating to pending and from there to terminated: nobody else may answer for the
write. So it looks three times at most, and whatever it finds is one of these three phases. Before
that it has taken the callback of its own write, which nobody else touches either.
-/

namespace DatagramMux.Flusher

open Component

variable {Callback : Type}
variable {flusher next : Flusher Callback} {move : FlusherMove Callback}
variable {taken put : List (FlusherFrame Callback)} {frames rest : Multiset (FlusherFrame Callback)}

/-! ## Where a frame may be met -/

/-- Whoever answers for a write finds the flusher neither idle nor already marked. -/
theorem Owned.phase_of_answering (owned : Owned flusher frames)
    (answering : 0 < inRole .answering frames) :
    flusher.phase = .iterating ∨ flusher.phase = .pending ∨ flusher.phase = .terminated := by
  unfold Owned awaited at owned
  cases phase : flusher.phase with
  | iterating => exact .inl rfl
  | pending => exact .inr (.inl rfl)
  | terminated => exact .inr (.inr rfl)
  | idle | called =>
      rw [phase] at owned
      simp only [Phase.Admits] at owned
      omega

/-- Whoever comes back from a write finds the flusher neither idle nor pending. -/
theorem Owned.phase_of_writing (owned : Owned flusher frames)
    (writing : 0 < inRole .writing frames) :
    flusher.phase = .iterating ∨ flusher.phase = .called ∨ flusher.phase = .terminated := by
  unfold Owned at owned
  cases phase : flusher.phase with
  | iterating => exact .inl rfl
  | called => exact .inr (.inl rfl)
  | terminated => exact .inr (.inr rfl)
  | idle | pending =>
      rw [phase] at owned
      simp only [Phase.Admits] at owned
      omega

/-! ## The retry loop -/

/-- Whether a frame belongs to the loop in which a success is reported. -/
def retrying : FlusherFrame Callback → Bool
  | .task .succeed | .task .mark | .task .resume => true
  | _ => false

/-- Whether a move belongs to that loop. -/
def retries : FlusherMove Callback → Bool
  | .work .succeed | .work .mark | .work .resume => true
  | _ => false

/-- Whether a move begins a round of that loop, by looking at the phase. -/
def looks : FlusherMove Callback → Bool
  | .work .succeed => true
  | _ => false

/-- How many rounds a thread with these moves has made since it entered the loop last. -/
def rounds (own : List (FlusherMove Callback)) : Nat := (own.rtakeWhile retries).countP looks

theorem rounds_concat (own : List (FlusherMove Callback)) (move : FlusherMove Callback) :
    rounds (own ++ [move]) = if retries move then rounds own + (looks move).toNat else 0 := by
  unfold rounds
  by_cases retrying : retries move = true
  · rw [if_pos retrying, List.rtakeWhile_concat_pos _ _ _ retrying, List.countP_append]
    cases looking : looks move <;> simp [looking]
  · rw [if_neg retrying, List.rtakeWhile_concat_neg _ _ _ retrying, List.countP_nil]

/-- How far the phase has come while somebody answers for a write. -/
def Phase.rank : Phase → Nat
  | .pending => 1
  | .terminated => 2
  | .idle | .iterating | .called => 0

theorem Phase.rank_le (phase : Phase) : phase.rank ≤ 2 := by cases phase <;> simp [Phase.rank]

/-- While somebody answers for a write, the others do not set the phase back. -/
theorem rank_le_of_exchange (exchange : Exchange (component Callback) flusher move taken next put)
    (owned : Owned flusher (↑taken + rest)) (answering : 0 < inRole .answering rest) :
    flusher.phase.rank ≤ next.phase.rank := by
  have turn := exchange_turn exchange
  have single := (length_exchange_le exchange).1
  simp only [Owned, awaited, inRole_add single] at owned
  generalize flusher.phase = before at turn owned
  generalize next.phase = after at turn
  generalize flusher.outstanding.length = unused at turn owned
  generalize next.outstanding.length = unusedNext at turn
  generalize headRole taken = role at turn owned
  generalize headRole put = roleNext at turn
  cases turn with
  | resume =>
      -- Taking up the iteration would be a second answer for the only write that is awaited.
      simp [Phase.Admits, Role.share] at owned
      omega
  | keep | hand | redeem | collect | drain | stray | leave | find => exact Nat.le_refl _
  | claim | release | wait | regain | mark => exact Nat.zero_le _
  | fail | close => exact before.rank_le

/-- How many rounds may have been made with this frame on top of the stack. -/
def Allowed (phase : Phase) : Option (FlusherFrame Callback) → Nat → Prop
  | some (.task .succeed), made => made ≤ phase.rank
  | some (.task .mark), made => made ≤ 1
  | some (.task .resume), made => made = 0 ∨ made ≤ 2 ∧ 1 ≤ phase.rank
  | _, made => made ≤ 3

theorem allowed_zero (phase : Phase) (top : Option (FlusherFrame Callback)) :
    Allowed phase top 0 := by
  unfold Allowed
  split <;> simp

theorem Allowed.le_three {phase : Phase} {top : Option (FlusherFrame Callback)} {made : Nat}
    (allowed : Allowed phase top made) : made ≤ 3 := by
  have rank := phase.rank_le
  unfold Allowed at allowed
  split at allowed <;> omega

theorem Allowed.mono {phase later : Phase} {top : Option (FlusherFrame Callback)} {made : Nat}
    (further : (∃ frame ∈ top, retrying frame = true) → phase.rank ≤ later.rank)
    (allowed : Allowed phase top made) : Allowed later top made := by
  unfold Allowed at allowed ⊢
  split at allowed
  · exact allowed.trans (further ⟨_, rfl, rfl⟩)
  · exact allowed
  · have := further ⟨_, rfl, rfl⟩
    omega
  · exact allowed

theorem allowed_of_isInside {phase : Phase} {stack : List (FlusherFrame Callback)} {made : Nat}
    (inside : ∀ frame ∈ stack, frame.isInside = true) (few : made ≤ 3) :
    Allowed phase stack.head? made := by
  rcases stack with - | ⟨top, below⟩
  · exact few
  · have under := inside top List.mem_cons_self
    cases top with
    | inside request => exact few
    | task | call => cases under

theorem Allowed.retry {task : Task Callback} {below : List (FlusherFrame Callback)} {made : Nat}
    (retrying : retrying (.task task : FlusherFrame Callback) = true)
    (found : flusher.phase = .iterating ∨ flusher.phase = .pending ∨ flusher.phase = .terminated)
    (inside : ∀ frame ∈ below, frame.isInside = true)
    (allowed : Allowed flusher.phase (some (.task task)) made) :
    Allowed (step flusher task).1.phase ((step flusher task).2 ++ below).head?
      (made + (looks (.work task : FlusherMove Callback)).toNat) := by
  have few := allowed.le_three
  cases task with
  | succeed =>
      rcases found with iterating | pending | terminated
      · simp_all [step, Allowed, Phase.rank, looks]
      · simp_all [step, Allowed, Phase.rank, looks]
      · have early : made ≤ 2 := by simpa [Allowed, Phase.rank, terminated] using allowed
        simp only [step, terminated]
        exact Nat.succ_le_succ early
  | mark =>
      rcases found with iterating | pending | terminated
      · simp only [step, iterating, List.nil_append]
        exact allowed_of_isInside inside few
      · simp_all [step, Allowed, Phase.rank, looks]
      · simp_all [step, Allowed, Phase.rank, looks]
        omega
  | resume =>
      rcases found with iterating | pending | terminated
      · simp_all [step, Allowed, Phase.rank, looks]
      · simp_all [step, Allowed, Phase.rank, looks]
      · simp_all [step, Allowed, Phase.rank, looks]
        omega
  | _ => cases retrying

/-- What a thread does itself in the loop. -/
theorem Allowed.step {stack nextStack : List (FlusherFrame Callback)} {made : Nat}
    (step : Step (component Callback) flusher stack move next nextStack)
    (retry : retries move = true)
    (found : ∀ frame ∈ stack, retrying frame = true →
      flusher.phase = .iterating ∨ flusher.phase = .pending ∨ flusher.phase = .terminated)
    (inside : ∀ frame ∈ stack.tail, frame.isInside = true)
    (allowed : Allowed flusher.phase stack.head? made) :
    Allowed next.phase nextStack.head? (made + (looks move).toNat) := by
  cases step with
  | work task below free =>
      have retrying : retrying (.task task : FlusherFrame Callback) = true := by
        cases task <;> first | rfl | cases retry
      exact allowed.retry retrying (found _ List.mem_cons_self retrying) inside
  | «begin» | finish | enter => cases retry

/-! ## Whose callback is collected -/

/-- What is to follow the call of a callback is one of the tasks that may. -/
def Sequenced : FlusherFrame Callback → Prop
  | .call (.notify _ _ next) | .inside (.notify _ _ next) => next.follows = true
  | _ => True

theorem sequenced_step (flusher : Flusher Callback) (task : Task Callback) :
    ∀ frame ∈ (step flusher task).2, Sequenced frame := by
  fun_cases step flusher task with
  | case34 completion counted callback | case33 completion counted =>
      cases completion <;> simp [Completion.sequel, Sequenced, Task.follows]
  | case46 report => cases report <;> simp [Sequenced]
  | _ => simp [Sequenced, Task.follows]

theorem sequenced_exchange (exchange : Exchange (component Callback) flusher move taken next put)
    (before : ∀ frame ∈ taken, Sequenced frame) : ∀ frame ∈ put, Sequenced frame := by
  cases exchange with
  | work task => exact sequenced_step flusher task
  | begin request =>
      have sequenced := before _ (List.mem_singleton_self _)
      intro frame member
      obtain rfl := List.mem_singleton.1 member
      cases request <;> exact sequenced
  | finish request reply =>
      intro frame member
      cases request with
      | write | notify =>
          obtain rfl := List.mem_singleton.1 member
          trivial
      | failure => cases member
  | enter method =>
      intro frame member
      obtain rfl := List.mem_singleton.1 member
      trivial

/-- A callback is collected only right after a ticket was used. -/
theorem redeem_of_collect {stack nextStack : List (FlusherFrame Callback)} {completion : Completion}
    (step : Step (component Callback) flusher stack move next nextStack)
    (inside : ∀ frame ∈ stack.tail, frame.isInside = true)
    (sequenced : ∀ frame ∈ stack, Sequenced frame)
    (top : nextStack.head? = some (.task (.collect completion))) :
    ∃ ticket, move = .work (.redeem ticket completion) ∧ ticket ∈ flusher.outstanding := by
  have bottom {below : List (FlusherFrame Callback)}
      (inside : ∀ frame ∈ below, frame.isInside = true) :
      below.head? ≠ some (.task (.collect completion)) := by
    intro top
    cases inside _ (List.mem_of_mem_head? top)
  cases step with
  | work task below free =>
      change ((Flusher.step flusher task).2 ++ below).head? = _ at top
      revert top
      fun_cases Flusher.step flusher task with
      | case30 ticket reported unused =>
          intro top
          cases top
          exact ⟨ticket, rfl, unused⟩
      | case34 reported | case33 reported =>
          intro top
          cases reported <;> cases top
      | case46 report =>
          intro top
          cases report with
          | false => exact absurd top (bottom inside)
          | true => cases top
      | _ =>
          intro top
          first
          | cases top
          | exact absurd top (bottom inside)
  | «begin» request below => cases top
  | finish request reply below =>
      have follows := sequenced _ List.mem_cons_self
      cases request with
      | write => cases top
      | failure => exact absurd top (bottom inside)
      | notify callback outcome following =>
          cases top
          cases follows
  | enter method stack enterable => cases method <;> cases top

section Sound

variable {journal : Journal Callback} {completion : Completion}

/-- While a callback is being collected, no ticket is unused. -/
theorem Sound.outstanding_eq_nil (sound : Sound journal flusher frames)
    (collecting : .task (.collect completion) ∈ frames) : flusher.outstanding = [] := by
  obtain ⟨others, rfl⟩ := Multiset.exists_cons_of_mem collecting
  obtain ⟨-, awaiting⟩ := sound.owned.bounded
  rw [total_cons, Cargo.answers_add, Multiset.card_add] at awaiting
  simp only [cargo, Task.cargo, Multiset.card_singleton] at awaiting
  exact List.eq_nil_of_length_eq_zero (by omega)

/-- As long as no ticket is unused, no other completion is noted. -/
theorem Sound.completed_record (sound : Sound journal flusher frames)
    (spent : flusher.outstanding = []) (move : FlusherMove Callback) :
    (journal.record move).completed = journal.completed := by
  cases move with
  | work task =>
      cases task with
      | redeem ticket completion =>
          rw [sound.ticketed.record_redeem, if_neg (by simp [spent])]
      | _ => rfl
  | begin request => cases request <;> rfl
  | finish request reply => rfl
  | enter method => cases method <;> rfl

/-- The callback in the slot is the one of the write that was completed last. -/
theorem Sound.current_of_collecting {ticket : Nat} (sound : Sound journal flusher frames)
    (collecting : .task (.collect completion) ∈ frames)
    (last : journal.completed.getLast? = some (ticket, completion)) :
    ∃ entry, journal.handed[ticket]? = some entry ∧ flusher.current = some entry.callback := by
  have spent := sound.outstanding_eq_nil collecting
  have owes := sound.settled.card_owed sound.ticketed
  have awaiting := sound.owned.bounded.awaiting
  obtain ⟨others, rfl⟩ := Multiset.exists_cons_of_mem collecting
  have certain := (within_total others).settling
  have used := sound.ticketed.used
  obtain ⟨-, ⟨owed, inSlot, callbacks⟩, -⟩ := sound.settled
  simp only [total_cons, Cargo.answers_add, Cargo.settling_add, Multiset.card_add, cargo, Task.cargo,
    Multiset.card_singleton, zero_add, spent, List.length_nil] at owes awaiting inSlot
  -- The only answer is the one that is being collected, so its callback is the only one owed.
  have clear : (total cargo others).settling = 0 := Multiset.card_eq_zero.1 (by omega)
  rw [clear, Multiset.card_zero] at owes
  rw [clear, add_zero, Multiset.coe_eq_coe] at inSlot
  cases current : flusher.current with
  | none =>
      rw [current, Option.toList_none, List.length_nil] at owes
      omega
  | some callback =>
      rw [current, Option.toList_some, List.perm_singleton] at inSlot
      subst inSlot
      obtain ⟨front, rest, handed, -, lastOne⟩ := List.map_eq_append_iff.1 callbacks
      obtain ⟨entry, rfl, rfl⟩ := List.map_eq_singleton_iff.1 lastOne
      refine ⟨entry, ?_, rfl⟩
      -- The tickets are used in order, so the last one to be used belongs to the last write.
      have tickets := congrArg List.getLast? used
      rw [spent, List.append_nil, List.getLast?_map, last, handed, List.length_append,
        List.length_singleton, List.range_succ, List.getLast?_concat] at tickets
      obtain rfl : ticket = front.length := Option.some.inj tickets
      rw [handed, List.getElem?_concat_length]

end Sound

/-! ## Under threads -/

section Threads

variable {count : Nat} {moves : List (Nat × FlusherMove Callback)}
variable {threads : Threads (Flusher Callback) (Task Callback) (Request Callback)}

/-- The flusher with a number of threads that have not used it yet. -/
def fresh (Callback : Type) (count : Nat) :
    Threads (Flusher Callback) (Task Callback) (Request Callback) :=
  ⟨Flusher.new, List.replicate count []⟩

theorem quiet_fresh : (fresh Callback count).Quiet := fun _ member => List.eq_of_mem_replicate member

theorem role_of_retrying {frame : FlusherFrame Callback} (retries : retrying frame = true) :
    role frame = some .answering := by
  unfold retrying at retries
  split at retries <;> first | rfl | cases retries

theorem isInside_below (run : ThreadRun (component Callback) (fresh Callback count) moves threads)
    (thread : Nat) : ∀ frame ∈ (threads.stack thread).tail, frame.isInside = true :=
  run.isInside_below (fun exchange => (length_exchange_le exchange).2) quiet_fresh thread

theorem sequenced_of_threadRun
    (run : ThreadRun (component Callback) (fresh Callback count) moves threads) :
    ∀ frame ∈ threads.gathered, Sequenced frame := by
  refine run.invariant_of_exchange (fun _ _ frames => ∀ frame ∈ frames, Sequenced frame) ?_ ?_
  · intro moves flusher move taken next put rest exchange before frame member
    have new := sequenced_exchange exchange fun frame member =>
      before frame (Multiset.mem_add.2 (.inl (Multiset.mem_coe.2 member)))
    rcases Multiset.mem_add.1 member with here | there
    · exact new frame (Multiset.mem_coe.1 here)
    · exact before frame (Multiset.mem_add.2 (.inr there))
  · rw [gathered_of_quiet quiet_fresh]
    exact fun frame member => absurd member (Multiset.notMem_zero frame)

theorem phase_of_retrying
    (run : ThreadRun (component Callback) (fresh Callback count) moves threads) {thread : Nat}
    {frame : FlusherFrame Callback} (member : frame ∈ threads.stack thread)
    (retries : retrying frame = true) :
    threads.state.phase = .iterating ∨ threads.state.phase = .pending ∨
      threads.state.phase = .terminated :=
  (Sound.of_threadRun run).owned.phase_of_answering
    (inRole_pos (Threads.mem_gathered member) (role_of_retrying retries))

/-- In every thread, no more rounds have been made than are allowed where it is. -/
theorem allowed_of_threadRun
    (run : ThreadRun (component Callback) (fresh Callback count) moves threads) (thread : Nat) :
    Allowed threads.state.phase (threads.stack thread).head? (rounds (ownMoves thread moves)) := by
  refine run.invariant_of_reached (fun moves threads => ∀ thread,
    Allowed threads.state.phase (threads.stack thread).head?
      (rounds (ownMoves thread moves))) ?_ ?_ thread
  · intro moves threads maker move next run threadStep before thread
    by_cases same : thread = maker
    · subst same
      rw [ownMoves_concat_self, rounds_concat]
      by_cases retry : retries move = true
      · rw [if_pos retry]
        exact (before thread).step threadStep.own retry
          (fun frame member => phase_of_retrying run member) (isInside_below run thread)
      · rw [if_neg retry]
        exact allowed_zero _ _
    · rw [ownMoves_concat_of_ne same, threadStep.stack_of_ne same]
      refine (before thread).mono fun retries => ?_
      obtain ⟨frame, top, retries⟩ := retries
      obtain ⟨taken, put, rest, exchange, gathered, -⟩ := threadStep.exchange_beside same
      have owned := (Sound.of_threadRun run).owned
      rw [gathered] at owned
      refine rank_le_of_exchange exchange owned (inRole_pos ?_ (role_of_retrying retries))
      exact Multiset.mem_add.2 (.inl (Multiset.mem_coe.2 (List.mem_of_mem_head? top)))
  · intro thread
    rw [Threads.stack_of_quiet quiet_fresh]
    exact allowed_zero _ _

/-- Whoever collects a callback has just used a ticket, and nobody has used one since. -/
theorem redeemed_of_threadRun
    (run : ThreadRun (component Callback) (fresh Callback count) moves threads) {thread : Nat}
    {completion : Completion}
    (top : (threads.stack thread).head? = some (.task (.collect completion))) :
    ∃ ticket, (ownMoves thread moves).getLast? = some (.work (.redeem ticket completion)) ∧
      (Journal.after (moves.map Prod.snd)).completed.getLast? = some (ticket, completion) := by
  refine run.invariant_of_reached (fun moves threads => ∀ thread completion,
    (threads.stack thread).head? = some (.task (.collect completion)) →
      ∃ ticket, (ownMoves thread moves).getLast? = some (.work (.redeem ticket completion)) ∧
        (Journal.after (moves.map Prod.snd)).completed.getLast? = some (ticket, completion)) ?_ ?_
    thread completion top
  · intro moves threads maker move next run threadStep before thread completion top
    have sound := Sound.of_threadRun run
    rw [List.map_append, List.map_singleton, Journal.after_append_singleton]
    by_cases same : thread = maker
    · subst same
      obtain ⟨ticket, rfl, unused⟩ := redeem_of_collect threadStep.own (isInside_below run thread)
        (fun frame member => sequenced_of_threadRun run frame (Threads.mem_gathered member)) top
      refine ⟨ticket, ?_, ?_⟩
      · rw [ownMoves_concat_self, List.getLast?_concat]
      · rw [sound.ticketed.record_redeem, if_pos unused, List.getLast?_concat]
    · rw [threadStep.stack_of_ne same] at top
      obtain ⟨ticket, own, last⟩ := before thread completion top
      have collecting := Threads.mem_gathered (List.mem_of_mem_head? top)
      refine ⟨ticket, ?_, ?_⟩
      · rw [ownMoves_concat_of_ne same, own]
      · rw [sound.completed_record (sound.outstanding_eq_nil collecting), last]
  · intro thread completion top
    rw [Threads.stack_of_quiet quiet_fresh] at top
    cases top

/--
Whatever the threads do: whoever reports a success finds the flusher iterating, pending or terminated
until it has left its mark or gone on, and makes three rounds at most; whoever comes back from a write
finds it iterating, marked or terminated; and whoever collects a callback finds the one of the write
whose ticket it has just used.
-/
theorem completion_path_ends
    (run : ThreadRun (component Callback) (fresh Callback count) moves threads) (thread : Nat) :
    (∀ frame ∈ threads.stack thread, retrying frame = true →
        threads.state.phase = .iterating ∨ threads.state.phase = .pending ∨
          threads.state.phase = .terminated) ∧
      rounds (ownMoves thread moves) ≤ 3 ∧
      (∀ completion below, threads.stack thread = .task (.collect completion) :: below →
        ∃ ticket entry,
          (ownMoves thread moves).getLast? = some (.work (.redeem ticket completion)) ∧
            (Journal.after (moves.map Prod.snd)).handed[ticket]? = some entry ∧
              threads.state.current = some entry.callback) ∧
      (.task .written ∈ threads.stack thread →
        threads.state.phase = .iterating ∨ threads.state.phase = .called ∨
          threads.state.phase = .terminated) := by
  have sound := Sound.of_threadRun run
  refine ⟨fun frame member retries => phase_of_retrying run member retries,
    (allowed_of_threadRun run thread).le_three, fun completion below stack => ?_, fun member => ?_⟩
  · have top : (threads.stack thread).head? = some (.task (.collect completion)) := by rw [stack]; rfl
    obtain ⟨ticket, own, last⟩ := redeemed_of_threadRun run top
    obtain ⟨entry, handed, current⟩ := sound.current_of_collecting
      (Threads.mem_gathered (List.mem_of_mem_head? top)) last
    exact ⟨ticket, entry, own, handed, current⟩
  · exact sound.owned.phase_of_writing (inRole_pos (Threads.mem_gathered member) rfl)

end Threads

/-- While one thread is in a write, another one has used its ticket. -/
def ticketUsed : List (Nat × Choice (Request Nat) (Method Nat) fun _ => Unit) :=
  List.flatten
    [[(0, .enter (.offer ⟨7, default, []⟩))], List.replicate 7 (0, .proceed),
      [(1, .enter (.complete 0 (.ok ()))), (1, .proceed)]]

/--
It then reports the success, first while the other one is in the write, then when that one has come
back, and then when a third one has closed the flusher.
-/
def lookedThrice : List (Nat × Choice (Request Nat) (Method Nat) fun _ => Unit) :=
  List.flatten
    [List.replicate 3 (1, .proceed), [(1, .finish fun _ => ()), (1, .proceed)],
      [(0, .finish fun _ => ()), (0, .proceed)], List.replicate 2 (1, .proceed),
      [(2, .enter .close), (2, .proceed)], List.replicate 2 (1, .proceed)]

theorem three_rounds_after_lookedThrice :
    let early := ThreadTrace.follow (component Nat) (fresh Nat 3) ticketUsed
    let late := ThreadTrace.follow (component Nat) (fresh Nat 3) (ticketUsed ++ lookedThrice)
    (∃ ticket entry, (ownMoves 1 early.moves).getLast? = some (.work (.redeem ticket (.ok ()))) ∧
        (Journal.after (early.moves.map Prod.snd)).handed[ticket]? = some entry ∧
          early.threads.state.current = some entry.callback) ∧
      early.threads.state.current = some 7 ∧
      rounds (ownMoves 1 late.moves) = 3 ∧ rounds (ownMoves 1 late.moves) ≤ 3 := by
  have early := ThreadTrace.run_follow (component Nat) (fresh Nat 3) ticketUsed
  have late := ThreadTrace.run_follow (component Nat) (fresh Nat 3) (ticketUsed ++ lookedThrice)
  obtain ⟨-, -, collects, -⟩ := completion_path_ends early 1
  exact ⟨collects _ _ rfl, rfl, by decide +kernel, (completion_path_ends late 1).2.1⟩

end DatagramMux.Flusher
