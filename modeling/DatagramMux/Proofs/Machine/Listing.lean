import DatagramMux.Proofs.Machine.Exchange

/-!
# Listings that take their time

A table that several threads change cannot be listed at one stroke. A list of its keys may miss some
that came or went while it was made, and may show some that are gone; all that can be relied upon is
that no key is missing that was there all the time. So for each thread the keys are watched that have
been in the table ever since its last move, and a thread that lists the keys may go on with any list
that contains these. Listing them at one stroke is a special case.
-/

namespace DatagramMux.Component

variable {State Task Request Method Key : Type} {Reply : Request → Type}

/-- The keys of a table in a state, and how a task that lists them goes on with a list. -/
structure Listing (State Task Key : Type) where
  keys : State → List Key
  follow? : Task → Option (List Key → Task)

/-- Threads, and for each of them the keys that have been there ever since its last move. -/
structure Watched (State Task Request Key : Type) where
  threads : Threads State Task Request
  lasting : Nat → Key → Prop

namespace Watched

variable (listing : Listing State Task Key)

def start (threads : Threads State Task Request) : Watched State Task Request Key :=
  ⟨threads, fun _ key => key ∈ listing.keys threads.state⟩

/-- What is watched after a thread has made a move. -/
def moved (watched : Watched State Task Request Key) (thread : Nat)
    (next : Threads State Task Request) : Watched State Task Request Key :=
  ⟨next, fun other key =>
    key ∈ listing.keys next.state ∧ (other = thread ∨ watched.lasting other key)⟩

end Watched

/-- One move of one of several threads, which may be a listing that takes its time. -/
inductive WatchedStep (component : Component State Task Request Method Reply)
    (listing : Listing State Task Key) :
    Watched State Task Request Key → Nat → Move Task Request Method Reply →
      Watched State Task Request Key → Prop where
  | move {watched : Watched State Task Request Key} {thread : Nat}
      {move : Move Task Request Method Reply} {next : Threads State Task Request} :
      ThreadStep component watched.threads thread move next →
        WatchedStep component listing watched thread move (watched.moved listing thread next)
  | list {watched : Watched State Task Request Key} {thread : Nat} {task : Task}
      {rest : List (Frame Task Request)} {follow : List Key → Task} (keys : List Key) :
      watched.threads.frames[thread]? = some (.task task :: rest) →
        listing.follow? task = some follow → (∀ key, watched.lasting thread key → key ∈ keys) →
          WatchedStep component listing watched thread (.work task)
            (watched.moved listing thread
              ⟨watched.threads.state,
                watched.threads.frames.set thread (.task (follow keys) :: rest)⟩)

/-- A run of several threads in which listings may take their time. -/
inductive WatchedRun (component : Component State Task Request Method Reply)
    (listing : Listing State Task Key) :
    Watched State Task Request Key → List (Nat × Move Task Request Method Reply) →
      Watched State Task Request Key → Prop where
  | refl (watched : Watched State Task Request Key) : WatchedRun component listing watched [] watched
  | tail {first middle last : Watched State Task Request Key}
      {moves : List (Nat × Move Task Request Method Reply)} {thread : Nat}
      {move : Move Task Request Method Reply} :
      WatchedRun component listing first moves middle →
        WatchedStep component listing middle thread move last →
          WatchedRun component listing first (moves ++ [(thread, move)]) last

/-- What a move takes away and puts in its place, if listings may take their time. -/
inductive WatchedExchange (component : Component State Task Request Method Reply)
    (listing : Listing State Task Key) (state : State) (lasting : Key → Prop) :
    Move Task Request Method Reply → List (Frame Task Request) →
      State → List (Frame Task Request) → Prop where
  | plain {move : Move Task Request Method Reply} {taken put : List (Frame Task Request)}
      {next : State} : Exchange component state move taken next put →
        WatchedExchange component listing state lasting move taken next put
  | list {task : Task} {follow : List Key → Task} (keys : List Key) :
      listing.follow? task = some follow → (∀ key, lasting key → key ∈ keys) →
        WatchedExchange component listing state lasting (.work task) [.task task]
          state [.task (follow keys)]

variable {component : Component State Task Request Method Reply} {listing : Listing State Task Key}
variable {first middle watched next last : Watched State Task Request Key}
variable {moves further : List (Nat × Move Task Request Method Reply)}
variable {move : Move Task Request Method Reply} {thread : Nat}

theorem WatchedStep.exchange (step : WatchedStep component listing watched thread move next) :
    ∃ taken put rest, watched.threads.frames[thread]? = some (taken ++ rest) ∧
      next = watched.moved listing thread
        ⟨next.threads.state, watched.threads.frames.set thread (put ++ rest)⟩ ∧
      WatchedExchange component listing watched.threads.state (watched.lasting thread)
        move taken next.threads.state put := by
  cases step with
  | move threadStep =>
      cases threadStep with
      | move stack nextStack state found step =>
          obtain ⟨taken, put, rest, rfl, rfl, exchange⟩ := step.exchange
          exact ⟨taken, put, rest, found, rfl, .plain exchange⟩
  | list keys found follows complete =>
      exact ⟨[_], [_], _, found, rfl, .list keys follows complete⟩

theorem WatchedExchange.taken_eq {state after : State} {lasting : Key → Prop}
    {taken put : List (Frame Task Request)}
    (exchange : WatchedExchange component listing state lasting move taken after put) :
    taken = [] ∨ ∃ frame, taken = [frame] := by
  cases exchange with
  | plain exchange =>
      cases exchange with
      | work task _ => exact .inr ⟨_, rfl⟩
      | begin request => exact .inr ⟨_, rfl⟩
      | finish request reply => exact .inr ⟨_, rfl⟩
      | enter method => exact .inl rfl
  | list keys follows complete => exact .inr ⟨_, rfl⟩

/-- What holds at first and is kept by every move holds in the end, with regard to the moves made. -/
theorem WatchedRun.invariant
    (holds : List (Nat × Move Task Request Method Reply) → Watched State Task Request Key → Prop)
    (kept : ∀ {moves watched thread move next}, WatchedRun component listing first moves watched →
      WatchedStep component listing watched thread move next →
        holds moves watched → holds (moves ++ [(thread, move)]) next)
    (run : WatchedRun component listing first moves last) (start : holds [] first) :
    holds moves last := by
  induction run with
  | refl => exact start
  | tail run step ih => exact kept run step ih

/-- What every exchange keeps, whatever other frames there are, holds after every run. -/
theorem WatchedRun.invariant_of_exchange
    (holds : List (Move Task Request Method Reply) → State → Multiset (Frame Task Request) → Prop)
    (kept : ∀ {moves state lasting move taken next put rest},
      WatchedExchange component listing state lasting move taken next put →
        holds moves state (↑taken + rest) → holds (moves ++ [move]) next (↑put + rest))
    (run : WatchedRun component listing first moves last)
    (start : holds [] first.threads.state first.threads.gathered) :
    holds (moves.map Prod.snd) last.threads.state last.threads.gathered := by
  refine run.invariant (fun moves watched =>
    holds (moves.map Prod.snd) watched.threads.state watched.threads.gathered) ?_ start
  intro moves watched thread move next _ step before
  obtain ⟨taken, put, rest, found, threads, exchange⟩ := step.exchange
  obtain ⟨others, gathered, afterwards⟩ := gathered_set found
  have later : next.threads.gathered = ↑put + (↑rest + others) := by
    rw [threads, Threads.gathered, Watched.moved, afterwards, ← Multiset.coe_add, add_assoc]
  rw [Threads.gathered, gathered, ← Multiset.coe_add, add_assoc] at before
  rw [List.map_append, List.map_singleton, later]
  exact kept exchange before

theorem WatchedRun.append (run : WatchedRun component listing first moves middle)
    (onward : WatchedRun component listing middle further last) :
    WatchedRun component listing first (moves ++ further) last := by
  induction onward with
  | refl => rwa [List.append_nil]
  | tail _ step ih =>
      rw [← List.append_assoc]
      exact ih.tail step

/-- A run in which every listing is made at one stroke. -/
theorem ThreadRun.exists_watched (listing : Listing State Task Key)
    (watched : Watched State Task Request Key) {threads : Threads State Task Request}
    (run : ThreadRun component watched.threads moves threads) :
    ∃ lasting, WatchedRun component listing watched moves ⟨threads, lasting⟩ := by
  induction run with
  | refl => exact ⟨watched.lasting, .refl watched⟩
  | tail _ step ih =>
      obtain ⟨lasting, before⟩ := ih
      exact ⟨_, before.tail (.move step)⟩

end DatagramMux.Component
