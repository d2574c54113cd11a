import DatagramMux.Proofs.Machine.Listing
import DatagramMux.Proofs.Machine.Projection
import DatagramMux.Proofs.Machine.Script
import DatagramMux.Registry.Shared

/-!
# Closing all sessions of a shared registry

Any number of threads register sessions, take them out and close all of them, also from inside the
closing of a session, and what they list may be out of date when they act on it. Still nothing gets
lost and nothing is done twice, because only a removal decides who is in charge of a session: a
session that was registered is registered still, or one removal has yielded it, or one call of closing
all sessions has closed it and counted it.
-/

namespace DatagramMux.Registry

open Component

variable {Session : Type}

abbrev SharedMove (Session : Type) :=
  Move (SharedTask Session) (SharedRequest Session) (SharedMethod Session) (fun _ => Unit)

/-- Threads that use a shared registry, and which identifiers have lasted. -/
abbrev SharedWatch (Session : Type) :=
  Watched (Registry Session) (SharedTask Session) (SharedRequest Session) ConnectionId

/-- How the identifiers of a shared registry are listed. -/
def listing (Session : Type) : Listing (Registry Session) (SharedTask Session) ConnectionId where
  keys := identifiers
  follow?
    | .sweep (.list purpose) => some fun identifiers => .sweep (.next identifiers 0 purpose)
    | _ => none

/-! ## What a run has done, and what its frames are about to do -/

@[simp]
def submitted? : SharedMove Session → Option Session
  | .enter (.insert _ session) => some session
  | _ => none

@[simp]
def accepted? : SharedMove Session → Option Session
  | .begin (.inserted _ session true) => some session
  | _ => none

@[simp]
def yielded? : SharedMove Session → Option Session
  | .begin (.removed _ session?) => session?
  | _ => none

@[simp]
def closed? : SharedMove Session → Option Session
  | .begin (.sweep (.close session _ _ _)) => some session
  | _ => none

/-- The count that a call of closing all sessions returns in a move. -/
@[simp]
def reported? : SharedMove Session → Option Nat
  | .begin (.sweep (.report count _)) => some count
  | _ => none

@[simp]
def submitting : SharedFrame Session → List Session
  | .task (.insert _ session) => [session]
  | _ => []

@[simp]
def accepting : SharedFrame Session → List Session
  | .call (.inserted _ session true) => [session]
  | _ => []

@[simp]
def yielding : SharedFrame Session → List Session
  | .call (.removed _ session?) => session?.toList
  | _ => []

@[simp]
def closing : SharedFrame Session → List Session
  | .call (.sweep (.close session _ _ _)) => [session]
  | _ => []

/-- How many sessions a call of closing all sessions has closed so far. -/
@[simp]
def counted : SharedFrame Session → Nat
  | .task (.sweep (.next _ closed _)) | .call (.sweep (.close _ _ closed _))
  | .call (.sweep (.report closed _)) => closed
  | .inside (.sweep (.close _ _ closed _)) => closed + 1
  | _ => 0

def sessions (registry : Registry Session) : List Session := registry.entries.map Prod.snd

theorem perm_erase {registry : Registry Session} {identifier : ConnectionId} {session : Session}
    (member : (identifier, session) ∈ registry.entries) :
    registry.entries.Perm ((identifier, session) :: (registry.erase identifier).entries) := by
  obtain ⟨entries, distinct⟩ := registry
  simp only [erase] at member ⊢
  induction entries with
  | nil => cases member
  | cons entry rest ih =>
      rw [List.map_cons, List.nodup_cons] at distinct
      rcases List.mem_cons.1 member with rfl | later
      · have others : rest.filter (fun entry => ¬ entry.1 = identifier) = rest :=
          List.filter_eq_self.2 fun entry inRest => decide_eq_true fun same =>
            distinct.1 (List.mem_map.2 ⟨entry, inRest, same⟩)
        rw [List.filter_cons_of_neg (by simp), others]
      · have different : ¬ entry.1 = identifier := fun same =>
          distinct.1 (same ▸ List.mem_map_of_mem later)
        rw [List.filter_cons_of_pos (by simpa using different)]
        exact ((ih distinct.2 later).cons entry).trans (List.Perm.swap _ _ _)

/-- Closing all sessions takes them out one by one. -/
theorem sweepStep_next {Purpose : Type} (registry : Registry Session) (identifier : ConnectionId)
    (left : List ConnectionId) (closed : Nat) (purpose : Purpose) :
    sweepStep registry (.next (identifier :: left) closed purpose) =
      (registry.erase identifier,
        [match registry.lookup? identifier with
          | none => .task (.next left closed purpose)
          | some session => .call (.close session left closed purpose)]) := by
  rw [← fst_remove, ← snd_remove]
  simp only [sweepStep]
  rcases registry.remove identifier with ⟨remaining, _ | session⟩
  all_goals rfl

section Ledger

variable [DecidableEq Session]

/-- What a removal yields is what it takes away. -/
theorem count_remove (registry : Registry Session) (identifier : ConnectionId) (session : Session) :
    (sessions registry).count session =
      (registry.remove identifier).2.toList.count session +
        (sessions (registry.remove identifier).1).count session := by
  rw [snd_remove, fst_remove]
  rcases found : registry.lookup? identifier with - | removed
  · rw [erase_of_not_mem (lookup?_eq_none_iff.1 found), Option.toList_none, List.count_nil, zero_add]
  · have taken := (perm_erase (lookup?_eq_some_iff.1 found)).map Prod.snd
    rw [sessions, taken.count_eq, List.map_cons, Option.toList_some, ← List.singleton_append,
      List.count_append, sessions]

/-- How often a session occurs in what the frames are about to do. -/
def due (session : Session) (part : SharedFrame Session → List Session) :
    Multiset (SharedFrame Session) → Nat :=
  total fun frame => (part frame).count session

/-- How often a session occurs in what the moves have done. -/
def done (session : Session) (part : SharedMove Session → Option Session)
    (moves : List (SharedMove Session)) : Nat :=
  (moves.filterMap part).count session

@[simp]
theorem due_zero (session : Session) (part : SharedFrame Session → List Session) :
    due session part 0 = 0 := total_zero _

@[simp]
theorem due_singleton (session : Session) (part : SharedFrame Session → List Session)
    (frame : SharedFrame Session) : due session part {frame} = (part frame).count session :=
  total_singleton _ frame

@[simp]
theorem done_singleton (session : Session) (part : SharedMove Session → Option Session)
    (move : SharedMove Session) : done session part [move] = (part move).toList.count session := by
  rw [done, filterMap_singleton]

/-- The accounts of a shared registry after some moves. -/
structure Ledger (moves : List (SharedMove Session)) (registry : Registry Session)
    (frames : Multiset (SharedFrame Session)) : Prop where
  /-- The sessions that were closed have been counted. -/
  counts : (moves.filterMap reported?).sum + total counted frames = (moves.filterMap closed?).length
  /-- A session is accepted at most as often as it was submitted. -/
  once (session : Session) :
    done session accepted? moves + due session accepting frames + due session submitting frames ≤
      done session submitted? moves
  /-- A session that was accepted is registered still, or was yielded, or closed. -/
  kept (session : Session) :
    done session accepted? moves + due session accepting frames =
      (sessions registry).count session +
        (done session yielded? moves + due session yielding frames) +
        (done session closed? moves + due session closing frames)

/-- A move that keeps the accounts: what the frames owe less afterwards, the move has done. -/
structure Balanced (registry : Registry Session) (move : SharedMove Session)
    (taken : Multiset (SharedFrame Session)) (next : Registry Session)
    (put : Multiset (SharedFrame Session)) : Prop where
  counts : ([move].filterMap reported?).sum + total counted put =
    ([move].filterMap closed?).length + total counted taken
  once (session : Session) :
    done session accepted? [move] + due session accepting put + due session submitting put ≤
      done session submitted? [move] + due session accepting taken + due session submitting taken
  /-- Only a submission gives the frames more to submit. -/
  fewer (session : Session) :
    due session submitting put ≤ done session submitted? [move] + due session submitting taken
  kept (session : Session) :
    done session accepted? [move] + due session accepting put + (sessions registry).count session +
        due session yielding taken + due session closing taken =
      due session accepting taken + (sessions next).count session +
        (done session yielded? [move] + due session yielding put) +
        (done session closed? [move] + due session closing put)

theorem Ledger.append {moves : List (SharedMove Session)} {move : SharedMove Session}
    {registry next : Registry Session} {taken put rest : Multiset (SharedFrame Session)}
    (balanced : Balanced registry move taken next put)
    (ledger : Ledger moves registry (taken + rest)) : Ledger (moves ++ [move]) next (put + rest) := by
  constructor
  · have counts := ledger.counts
    have further := balanced.counts
    simp only [total_add, List.filterMap_append, List.sum_append, List.length_append] at *
    omega
  all_goals
    intro session
    have once := ledger.once session
    have onceMore := balanced.once session
    have kept := ledger.kept session
    have keptStill := balanced.kept session
    simp only [done, due, total_add, List.filterMap_append, List.count_append] at *
    omega

theorem balanced_work (registry : Registry Session) (task : SharedTask Session) :
    Balanced registry (.work task) {.task task} (sharedStep registry task).1
      ↑(sharedStep registry task).2 := by
  rcases task with ⟨identifier, submitted⟩ | identifier | purpose | ⟨_ | ⟨identifier, left⟩, closed, purpose⟩
  · simp only [sharedStep]
    rcases inserted : registry.insert? identifier submitted with _ | extended
    · constructor <;> simp [filterMap_singleton]
    · have entries := entries_of_insert? inserted
      constructor <;> simp [filterMap_singleton, sessions, entries, Nat.add_comm]
  · have removal := count_remove registry identifier
    simp only [sharedStep]
    generalize registry.remove identifier = outcome at removal ⊢
    constructor <;> simp [filterMap_singleton, removal, Nat.add_comm]
  · constructor <;> simp [filterMap_singleton, sharedStep, sweepStep, liftSweep]
  · constructor <;> simp [filterMap_singleton, sharedStep, sweepStep, liftSweep]
  · have removal := count_remove registry identifier
    simp only [sharedStep, sweepStep]
    generalize registry.remove identifier = outcome at removal ⊢
    rcases outcome with ⟨remaining, _ | removed⟩
    all_goals constructor <;> simp [filterMap_singleton, liftSweep, removal, Nat.add_comm]

theorem balanced_exchange {move : SharedMove Session} {registry next : Registry Session}
    {lasting : ConnectionId → Prop} {taken put : List (SharedFrame Session)}
    (exchange :
      WatchedExchange (shared Session) (listing Session) registry lasting move taken next put) :
    Balanced registry move ↑taken next ↑put := by
  cases exchange with
  | plain exchange =>
      cases exchange with
      | work task _ => exact balanced_work registry task
      | begin request =>
          rcases request with ⟨_, _, _ | _⟩ | ⟨_, _ | _⟩ | _ | _
          all_goals constructor <;> simp [filterMap_singleton, Nat.add_comm]
      | finish request reply =>
          rcases request with _ | _ | _ | _
          all_goals constructor <;> simp [filterMap_singleton, shared, sweepResume, liftSweep]
      | enter method => cases method <;> constructor <;> simp [filterMap_singleton, shared]
  | @list task _ keys follows _ =>
      rcases task with _ | _ | _ | _
      all_goals cases follows
      constructor <;> simp [filterMap_singleton]

theorem ledger_of_run {first last : SharedWatch Session} {moves : List (Nat × SharedMove Session)}
    (idle : first.threads.Quiet) (vacant : first.threads.state = .empty)
    (run : WatchedRun (shared Session) (listing Session) first moves last) :
    Ledger (moves.map Prod.snd) last.threads.state last.threads.gathered := by
  refine run.invariant_of_exchange Ledger
    (fun exchange ledger => ledger.append (balanced_exchange exchange)) ?_
  rw [gathered_of_quiet idle, vacant]
  constructor <;> intros <;> rfl

/-- A session that no frame is about to submit stays so, as long as nobody submits it. -/
theorem unsubmitted_of_run {first last : SharedWatch Session} {moves : List (Nat × SharedMove Session)}
    {session : Session} (run : WatchedRun (shared Session) (listing Session) first moves last)
    (none : due session submitting first.threads.gathered = 0)
    (never : done session submitted? (moves.map Prod.snd) = 0) :
    due session submitting last.threads.gathered = 0 := by
  refine run.invariant_of_exchange
    (fun moves _ frames => done session submitted? moves = 0 → due session submitting frames = 0)
    ?_ (fun _ => none) never
  intro moves registry lasting move taken next put rest exchange before never
  have fewer := (balanced_exchange exchange).fewer session
  simp only [done, List.filterMap_append, List.count_append] at fewer before never
  simp only [due, total_add] at fewer before ⊢
  omega

end Ledger

/-! ## What a call is going to take out -/

/-- A frame of closing all sessions that still has an identifier before it. -/
def Awaits (lasting : ConnectionId → Prop) (identifier : ConnectionId) : SharedFrame Session → Prop
  | .task (.sweep (.list _)) => lasting identifier
  | .task (.sweep (.next left _ _)) | .call (.sweep (.close _ left _ _))
  | .inside (.sweep (.close _ left _ _)) => identifier ∈ left
  | _ => False

/-- A thread still has an identifier before it, and gets back to a stack afterwards. -/
def Awaited (watched : SharedWatch Session) (thread : Nat) (stack : List (SharedFrame Session))
    (identifier : ConnectionId) : Prop :=
  ∃ frame current, watched.threads.frames[thread]? = some current ∧ frame :: stack <:+ current ∧
    Awaits (watched.lasting thread) identifier frame

theorem Awaits.mono {lasting later : ConnectionId → Prop} {identifier : ConnectionId}
    {frame : SharedFrame Session} (still : lasting identifier → later identifier)
    (awaits : Awaits lasting identifier frame) : Awaits later identifier frame := by
  unfold Awaits at awaits ⊢
  split at awaits <;> first | exact still awaits | exact awaits

/-- What a frame has before it is taken out, or the frame that follows has it before it. -/
theorem Awaits.exchange {lasting later : ConnectionId → Prop} {identifier : ConnectionId}
    {frame : SharedFrame Session} {registry next : Registry Session} {move : SharedMove Session}
    {put : List (SharedFrame Session)}
    (exchange :
      WatchedExchange (shared Session) (listing Session) registry lasting move [frame] next put)
    (here : identifier ∈ next.identifiers) (awaits : Awaits lasting identifier frame) :
    ∃ following, put = [following] ∧ Awaits later identifier following := by
  cases exchange with
  | plain exchange =>
      cases exchange with
      | work task _ =>
          rcases task with _ | _ | _ | ⟨_ | ⟨other, left⟩, closed, purpose⟩
          · cases awaits
          · cases awaits
          · exact ⟨_, rfl, here⟩
          · exact absurd awaits List.not_mem_nil
          · simp only [shared, sharedStep, sweepStep_next] at here ⊢
            have different : ¬ identifier = other := by simp_all
            have later := (List.mem_cons.1 awaits).resolve_left different
            split
            all_goals exact ⟨_, rfl, later⟩
      | begin request =>
          rcases request with _ | _ | _ | _
          all_goals try cases awaits; done
          exact ⟨_, rfl, awaits⟩
      | finish request reply =>
          rcases request with _ | _ | _ | _
          all_goals try cases awaits; done
          exact ⟨_, rfl, awaits⟩
  | @list task _ keys follows complete =>
      rcases task with _ | _ | _ | _
      all_goals cases follows
      exact ⟨_, rfl, complete identifier awaits⟩

theorem Awaited.step {watched next : SharedWatch Session} {mover thread : Nat}
    {move : SharedMove Session} {stack : List (SharedFrame Session)} {identifier : ConnectionId}
    (step : WatchedStep (shared Session) (listing Session) watched mover move next)
    (here : identifier ∈ next.threads.state.identifiers)
    (awaited : Awaited watched thread stack identifier) : Awaited next thread stack identifier := by
  obtain ⟨frame, current, position, lies, awaits⟩ := awaited
  obtain ⟨taken, put, rest, found, moved, exchange⟩ := step.exchange
  have inBounds : thread < watched.threads.frames.length := (List.getElem?_eq_some_iff.1 position).1
  by_cases same : mover = thread
  · subst same
    obtain rfl : current = taken ++ rest := Option.some.inj (position.symm.trans found)
    have there : next.threads.frames[mover]? = some (put ++ rest) := by
      rw [moved]
      exact List.getElem?_set_self inBounds
    have still : watched.lasting mover identifier → next.lasting mover identifier := fun _ => by
      rw [moved]
      exact ⟨here, .inl rfl⟩
    rcases exchange.taken_eq with rfl | ⟨top, rfl⟩
    · exact ⟨frame, _, there, lies.trans (List.suffix_append put rest), awaits.mono still⟩
    · rcases List.suffix_cons_iff.1 lies with onTop | deeper
      · obtain ⟨rfl, rfl⟩ := List.cons.inj onTop
        obtain ⟨following, rfl, awaits⟩ := awaits.exchange exchange here
        exact ⟨following, _, there, List.suffix_rfl, awaits⟩
      · exact ⟨frame, _, there, deeper.trans (List.suffix_append put rest), awaits.mono still⟩
  · have there : next.threads.frames[thread]? = some current := by
      rw [moved]
      exact (List.getElem?_set_ne same).trans position
    have still : watched.lasting thread identifier → next.lasting thread identifier := fun before => by
      rw [moved]
      exact ⟨here, .inr before⟩
    exact ⟨frame, current, there, lies, awaits.mono still⟩

/-- Only a submission brings a session into a registry. -/
theorem entry_of_exchange {lasting : ConnectionId → Prop} {registry next : Registry Session}
    {move : SharedMove Session} {taken put : List (SharedFrame Session)}
    {identifier : ConnectionId} {session : Session}
    (exchange :
      WatchedExchange (shared Session) (listing Session) registry lasting move taken next put)
    (member : (identifier, session) ∈ next.entries) :
    (identifier, session) ∈ registry.entries ∨ taken = [.task (.insert identifier session)] := by
  have kept {other : ConnectionId} (left : (identifier, session) ∈ (registry.erase other).entries) :
      (identifier, session) ∈ registry.entries := List.mem_of_mem_filter left
  cases exchange with
  | plain exchange =>
      cases exchange with
      | work task _ =>
          rcases task with ⟨other, submitted⟩ | other | purpose | ⟨_ | ⟨other, left⟩, closed, purpose⟩
          · simp only [shared, sharedStep] at member
            rcases inserted : registry.insert? other submitted with _ | extended
            · rw [inserted] at member
              exact .inl member
            · rw [inserted] at member
              simp only [entries_of_insert? inserted, List.mem_append, List.mem_singleton] at member
              refine member.imp_right fun same => ?_
              obtain ⟨rfl, rfl⟩ := Prod.mk.inj same
              rfl
          · simp only [shared, sharedStep, fst_remove] at member
            exact .inl (kept member)
          · exact .inl member
          · exact .inl member
          · simp only [shared, sharedStep, sweepStep_next] at member
            exact .inl (kept member)
      | begin request => exact .inl member
      | finish request reply => exact .inl member
      | enter method => exact .inl member
  | list keys follows complete => exact .inl member

/-- As long as a session is not submitted again, a thread keeps it before it or it is taken out. -/
theorem awaited_of_run [DecidableEq Session] {first last : SharedWatch Session}
    {moves : List (Nat × SharedMove Session)} {thread : Nat} {stack : List (SharedFrame Session)}
    {session : Session} (run : WatchedRun (shared Session) (listing Session) first moves last)
    (none : due session submitting first.threads.gathered = 0)
    (never : done session submitted? (moves.map Prod.snd) = 0)
    (start : ∀ identifier, (identifier, session) ∈ first.threads.state.entries →
      Awaited first thread stack identifier) :
    ∀ identifier, (identifier, session) ∈ last.threads.state.entries →
      Awaited last thread stack identifier := by
  refine run.invariant (fun moves watched => done session submitted? (moves.map Prod.snd) = 0 →
    ∀ identifier, (identifier, session) ∈ watched.threads.state.entries →
      Awaited watched thread stack identifier) ?_ (fun _ => start) never
  intro moves watched mover move next run step before never identifier member
  have neverBefore : done session submitted? (moves.map Prod.snd) = 0 := by
    simp only [done, List.map_append, List.filterMap_append, List.count_append] at never ⊢
    omega
  have unsubmitted := unsubmitted_of_run run none neverBefore
  obtain ⟨taken, put, rest, found, moved, exchange⟩ := step.exchange
  rcases entry_of_exchange exchange member with earlier | submission
  · refine (before neverBefore identifier earlier).step step ?_
    exact List.mem_map_of_mem member
  · obtain ⟨others, gathered, -⟩ := gathered_set found
    rw [Threads.gathered, gathered, submission] at unsubmitted
    simp [due] at unsubmitted

/-- A call of closing all sessions begins with every registered identifier before it. -/
theorem awaited_of_enter {called entered : SharedWatch Session} {thread : Nat}
    (step : WatchedStep (shared Session) (listing Session) called thread (.enter .closeAll) entered) :
    ∃ stack, called.threads.frames[thread]? = some stack ∧
      entered.threads.state = called.threads.state ∧
      ∀ identifier ∈ called.threads.state.identifiers, Awaited entered thread stack identifier := by
  cases step with
  | move threadStep =>
      cases threadStep with
      | move stack next state found step =>
          cases step with
          | enter =>
              refine ⟨stack, found, rfl, fun identifier member => ?_⟩
              have inBounds : thread < called.threads.frames.length :=
                (List.getElem?_eq_some_iff.1 found).1
              exact ⟨_, _, List.getElem?_set_self inBounds, List.suffix_rfl, member, .inl rfl⟩

theorem not_awaited_of_back {watched : SharedWatch Session} {thread : Nat}
    {stack : List (SharedFrame Session)} {identifier : ConnectionId}
    (back : watched.threads.frames[thread]? = some stack) :
    ¬ Awaited watched thread stack identifier := by
  rintro ⟨frame, current, position, lies, -⟩
  obtain rfl : current = stack := Option.some.inj (position.symm.trans back)
  have longer := lies.length_le
  rw [List.length_cons] at longer
  omega

/-! ## The end of it all -/

variable [DecidableEq Session]

/--
What becomes of a session that was registered: it still is, or one removal has yielded it, or it has
been closed once.
-/
def Settled (session : Session) (moves : List (SharedMove Session)) (registry : Registry Session) :
    Prop :=
  ((sessions registry).count session = 1 ∧ done session yielded? moves = 0 ∧
      done session closed? moves = 0) ∨
    ((sessions registry).count session = 0 ∧ done session yielded? moves = 1 ∧
        done session closed? moves = 0) ∨
      ((sessions registry).count session = 0 ∧ done session yielded? moves = 0 ∧
        done session closed? moves = 1)

theorem Ledger.settled {session : Session} {moves : List (SharedMove Session)}
    {registry : Registry Session} (ledger : Ledger moves registry 0)
    (fresh : (moves.filterMap submitted?).Nodup) (accepted : session ∈ moves.filterMap accepted?) :
    Settled session moves registry := by
  have atMost : done session submitted? moves ≤ 1 := List.nodup_iff_count_le_one.1 fresh session
  have atLeast : 0 < done session accepted? moves := List.count_pos_iff.2 accepted
  have once := ledger.once session
  have kept := ledger.kept session
  simp only [due_zero, add_zero] at once kept
  unfold Settled
  omega

/--
However threads register sessions, take them out and close all of them, each session at most once
registered: in the end every session that was registered is registered still, or was yielded by one
removal, or was closed once, and the counts that the calls of closing all sessions returned add up to
the number of sessions closed. And when such a call returns, no session is registered that was
registered when it began.
-/
theorem close_all_exactly_once {count : Nat} {moves : List (Nat × SharedMove Session)}
    {last : SharedWatch Session}
    (run : WatchedRun (shared Session) (listing Session)
      (.start (listing Session) ⟨.empty, List.replicate count []⟩) moves last)
    (fresh : ((moves.map Prod.snd).filterMap submitted?).Nodup) :
    (last.threads.Quiet →
      (∀ session ∈ (moves.map Prod.snd).filterMap accepted?,
        Settled session (moves.map Prod.snd) last.threads.state) ∧
      ((moves.map Prod.snd).filterMap reported?).sum =
        ((moves.map Prod.snd).filterMap closed?).length) ∧
    ∀ {before during : List (Nat × SharedMove Session)} {thread : Nat}
      {called entered : SharedWatch Session},
      WatchedRun (shared Session) (listing Session)
        (.start (listing Session) ⟨.empty, List.replicate count []⟩) before called →
      WatchedStep (shared Session) (listing Session) called thread (.enter .closeAll) entered →
      WatchedRun (shared Session) (listing Session) entered during last →
      moves = before ++ [(thread, .enter .closeAll)] ++ during →
      last.threads.frames[thread]? = called.threads.frames[thread]? →
      ∀ session ∈ sessions called.threads.state, session ∉ sessions last.threads.state := by
  have idle : (Watched.start (listing Session) (⟨.empty, List.replicate count []⟩ :
      Threads (Registry Session) (SharedTask Session) (SharedRequest Session))).threads.Quiet :=
    fun stack member => List.eq_of_mem_replicate member
  constructor
  · intro quiet
    have ledger := ledger_of_run idle rfl run
    rw [gathered_of_quiet quiet] at ledger
    exact ⟨fun session accepted => ledger.settled fresh accepted, ledger.counts⟩
  · intro before during thread called entered earlier enter later split back session registered still
    obtain ⟨stack, found, unchanged, awaited⟩ := awaited_of_enter enter
    have ledger := ledger_of_run idle rfl (earlier.tail enter)
    have once := ledger.once session
    have kept := ledger.kept session
    have present : 0 < (sessions entered.threads.state).count session := by
      rw [unchanged]
      exact List.count_pos_iff.2 registered
    have atMost := List.nodup_iff_count_le_one.1 fresh session
    rw [split, List.map_append, List.filterMap_append, List.count_append] at atMost
    change done session submitted? _ + done session submitted? _ ≤ 1 at atMost
    have unsubmitted : due session submitting entered.threads.gathered = 0 := by omega
    have never : done session submitted? (during.map Prod.snd) = 0 := by omega
    obtain ⟨⟨identifier, _⟩, member, rfl⟩ := List.mem_map.1 still
    refine not_awaited_of_back (back.trans found)
      (awaited_of_run later unsubmitted never (fun identifier member => ?_) identifier member)
    rw [unchanged] at member
    exact awaited identifier (List.mem_map_of_mem member)

def twoSubmissions : List (Nat × Choice (SharedRequest Nat) (SharedMethod Nat) fun _ => Unit) :=
  List.flatten
    [[(0, .enter (.insert ⟨[1]⟩ 1))], List.replicate 2 (0, .proceed), [(0, .finish fun _ => ())],
      [(0, .enter (.insert ⟨[2]⟩ 2))], List.replicate 2 (0, .proceed), [(0, .finish fun _ => ())]]

/--
While all sessions are closed, the first one closes all sessions when it is closed itself; then
another thread uses both identifiers again, before the second one is looked for.
-/
def nestedSweeps : List (Nat × Choice (SharedRequest Nat) (SharedMethod Nat) fun _ => Unit) :=
  List.flatten
    [List.replicate 3 (0, .proceed), [(0, .enter .closeAll)], List.replicate 3 (0, .proceed),
      [(0, .finish fun _ => ())], List.replicate 2 (0, .proceed), [(0, .finish fun _ => ())],
      [(1, .enter (.insert ⟨[1]⟩ 3))], List.replicate 2 (1, .proceed), [(1, .finish fun _ => ())],
      [(1, .enter (.insert ⟨[2]⟩ 4))], List.replicate 2 (1, .proceed), [(1, .finish fun _ => ())],
      [(0, .finish fun _ => ())], List.replicate 2 (0, .proceed), [(0, .finish fun _ => ())],
      List.replicate 2 (0, .proceed), [(0, .finish fun _ => ())]]

theorem settled_after_nestedSweeps :
    let first := ThreadTrace.follow (shared Nat) ⟨.empty, List.replicate 2 []⟩ twoSubmissions
    let last := ThreadTrace.follow (shared Nat)
      ⟨first.threads.state, first.threads.frames.set 0 ((shared Nat).body .closeAll)⟩ nestedSweeps
    let moves := (first.moves ++ [(0, Move.enter SharedMethod.closeAll)] ++ last.moves).map Prod.snd
    last.threads.Quiet ∧ moves.filterMap accepted? = [1, 2, 3, 4] ∧
      (∀ session ∈ [1, 2, 3, 4], Settled session moves last.threads.state) ∧
      (moves.filterMap reported?).sum = (moves.filterMap closed?).length ∧
      sessions first.threads.state = [1, 2] ∧
      ∀ session ∈ [1, 2], session ∉ sessions last.threads.state := by
  intro first last moves
  have quiet : last.threads.Quiet := by
    unfold Threads.Quiet
    decide +kernel
  have accepted : moves.filterMap accepted? = [1, 2, 3, 4] := by decide +kernel
  have fresh : (moves.filterMap submitted?).Nodup := by decide +kernel
  have registered : sessions first.threads.state = [1, 2] := by decide +kernel
  have idle : first.threads.frames[0]? = some [] := by decide +kernel
  have back : last.threads.frames[0]? = first.threads.frames[0]? := by decide +kernel
  have firstRun : ThreadRun (shared Nat) ⟨.empty, List.replicate 2 []⟩ first.moves first.threads :=
    ThreadTrace.run_follow (shared Nat) _ twoSubmissions
  have lastRun : ThreadRun (shared Nat) ⟨first.threads.state,
      first.threads.frames.set 0 ((shared Nat).body .closeAll)⟩ last.moves last.threads :=
    ThreadTrace.run_follow (shared Nat) _ nestedSweeps
  -- From here on it does not matter where the scripts lead.
  clear_value last first
  obtain ⟨lasting, before⟩ := ThreadRun.exists_watched (listing Nat)
    (.start (listing Nat) ⟨.empty, List.replicate 2 []⟩) firstRun
  have enter : WatchedStep (shared Nat) (listing Nat) ⟨first.threads, lasting⟩ 0
      (.enter .closeAll) _ :=
    .move (.move _ 0 _ [] _ _ idle (.enter _ _ [] enterable_nil))
  obtain ⟨_, during⟩ := ThreadRun.exists_watched (listing Nat)
    (Watched.moved (listing Nat) ⟨first.threads, lasting⟩ 0
      ⟨first.threads.state, first.threads.frames.set 0 ((shared Nat).body .closeAll)⟩) lastRun
  obtain ⟨atEnd, atReturn⟩ := close_all_exactly_once ((before.tail enter).append during) fresh
  obtain ⟨settled, counts⟩ := atEnd quiet
  refine ⟨quiet, accepted, fun session member => settled session (accepted ▸ member), counts,
    registered, fun session member => ?_⟩
  exact atReturn before enter during rfl back session (registered ▸ member)

end DatagramMux.Registry
