import DatagramMux.Proofs.Connection.Flushing
import DatagramMux.Proofs.Connection.Life

/-!
# How a connection is closed

The first one who raises the closing flag lists the registered sessions, takes them out of the
registry one by one and has each of them closed, counts them, terminates the flusher and closes the
endpoint. Between any two of these steps the surroundings may use the connection again. How far
closing has come is seen from the one frame of it that is on the stack. This module tells which moves
bring it on, and shows that all others leave it where it is.
-/

namespace DatagramMux.Connection

open Component

variable {Callback Session : Type}

/-- How far closing has come. -/
inductive Closing (Session : Type) where
  /-- The sessions are about to be listed. -/
  | listing
  /-- The sessions of these identifiers are still to be taken out. -/
  | sweeping (left : List ConnectionId)
  /-- A session was taken out and is about to be closed. -/
  | removing (session : Session) (left : List ConnectionId)
  | counting
  /-- The flusher is about to be terminated. -/
  | halting
  /-- The endpoint is about to be closed. -/
  | parting
  /-- The endpoint is being closed. -/
  | leaving
  | over

namespace Closing

/-- Whether the next move has to bring closing on. -/
def urgent : Closing Session → Bool
  | .listing | .removing _ _ | .counting | .halting => true
  | .sweeping _ | .parting | .leaving | .over => false

/-- What the frames on the stack show of closing; the endpoint's turn comes after the flusher's. -/
def shown : Closing Session → List (Closing Session)
  | .halting => [.halting, .parting]
  | .over => []
  | stage => [stage]

theorem eq_of_shown {stage first : Closing Session} {others : List (Closing Session)}
    (shown : first :: others = stage.shown) : stage = first := by
  cases stage <;> simp only [Closing.shown, List.cons.injEq, reduceCtorEq] at shown <;>
    exact shown.1.symm

theorem not_urgent_of_shown {stage : Closing Session}
    (calm : ∀ other ∈ stage.shown, other.urgent = false) : stage.urgent = false := by
  cases stage <;> first | rfl | exact calm _ List.mem_cons_self

end Closing

/-- What a frame shows of closing. -/
def mark : ConnectionFrame Callback Session → Option (Closing Session)
  | .task (.sweep (.list .shutdown)) => some .listing
  | .task (.sweep (.next left _ .shutdown)) => some (.sweeping left)
  | .call (.sweep (.close session left _ .shutdown)) => some (.removing session left)
  | .inside (.sweep (.close _ left _ .shutdown)) => some (.sweeping left)
  | .task (.countClosed _) => some .counting
  | .task (.flusher .close) => some .halting
  | .call .closeEndpoint => some .parting
  | .inside .closeEndpoint => some .leaving
  | _ => none

/-- Whether a move is one of those by which the connection is closed, after the first of them. -/
def tears : ConnectionMove Callback Session → Bool
  | .work (.sweep (.list .shutdown)) | .work (.sweep (.next _ _ .shutdown)) | .work (.countClosed _)
  | .work (.flusher .close) | .begin (.sweep (.close _ _ _ .shutdown)) | .begin .closeEndpoint
  | .finish .closeEndpoint () => true
  | _ => false

/-- A move that does not bring closing on, once it has begun. -/
structure Bystands (connection : Connection Callback Session)
    (move : ConnectionMove Callback Session) : Prop where
  calm : tears move = false
  register : ∀ session identifier buffer, move ≠ .work (.register session identifier buffer)
  withdraw : ∀ identifier buffer, move ≠ .work (.withdraw identifier buffer)
  write : ∀ ticket entry, move = .begin (.flusher (.write ticket entry)) →
    connection.flusher.phase ≠ .terminated

/-- How a move brings closing from one stage to the next. -/
inductive Advance (connection : Connection Callback Session) :
    ConnectionMove Callback Session → Closing Session → Closing Session → Prop where
  | list : Advance connection (.work (.sweep (.list .shutdown)))
      .listing (.sweeping connection.registry.identifiers)
  /-- A session that is no longer registered is passed over. -/
  | skip (identifier : ConnectionId) (left : List ConnectionId) (count : Nat) :
      identifier ∉ connection.registry.identifiers →
        Advance connection (.work (.sweep (.next (identifier :: left) count .shutdown)))
          (.sweeping (identifier :: left)) (.sweeping left)
  | remove (identifier : ConnectionId) (session : Session) (left : List ConnectionId)
      (count : Nat) : (identifier, session) ∈ connection.registry.entries →
        Advance connection (.work (.sweep (.next (identifier :: left) count .shutdown)))
          (.sweeping (identifier :: left)) (.removing session left)
  | close (session : Session) (left : List ConnectionId) (count : Nat) :
      Advance connection (.begin (.sweep (.close session left count .shutdown)))
        (.removing session left) (.sweeping left)
  | finish (count : Nat) :
      Advance connection (.work (.sweep (.next [] count .shutdown))) (.sweeping []) .counting
  | count (closed : Nat) : Advance connection (.work (.countClosed closed)) .counting .halting
  | halt : Advance connection (.work (.flusher .close)) .halting .parting
  | leave : Advance connection (.begin .closeEndpoint) .parting .leaving
  | left : Advance connection (.finish .closeEndpoint ()) .leaving .over
  | pass (move : ConnectionMove Callback Session) (stage : Closing Session) :
      stage.urgent = false → Bystands connection move → Advance connection move stage stage

/-- What has happened since the closing flag was raised, and how far closing has come. -/
inductive Course (first : Connection Callback Session) :
    List (ConnectionMove Callback Session) → Connection Callback Session → Closing Session →
      Prop where
  | shut : first.closed = false → Course first [.work .shut] (moved first (.work .shut)) .listing
  | next {moves : List (ConnectionMove Callback Session)}
      {connection : Connection Callback Session} {move : ConnectionMove Callback Session}
      {stage later : Closing Session} :
      Course first moves connection stage → Advance connection move stage later →
        Course first (moves ++ [move]) (moved connection move) later

theorem closed_moved {connection : Connection Callback Session}
    (closed : connection.closed = true) (move : ConnectionMove Callback Session) :
    (moved connection move).closed = true := by
  cases move with
  | work task =>
      change (step connection task).1.closed = true
      fun_cases step connection task <;> first | exact closed | rfl
  | _ => exact closed

theorem closed_moved_shut (connection : Connection Callback Session) :
    (moved connection (.work .shut)).closed = true := by
  cases closed : connection.closed <;> simp [moved, step, closed]

theorem eq_shut_of_moved {connection : Connection Callback Session}
    {move : ConnectionMove Callback Session} (alive : connection.closed = false)
    (closed : (moved connection move).closed = true) : move = .work .shut := by
  cases move with
  | work task =>
      change (step connection task).1.closed = true at closed
      revert closed
      fun_cases step connection task <;> first | exact fun _ => rfl | simp [alive]
  | _ => exact absurd closed (by simp [moved, alive])

theorem Course.closed {first connection : Connection Callback Session}
    {moves : List (ConnectionMove Callback Session)} {stage : Closing Session}
    (course : Course first moves connection stage) : connection.closed = true := by
  induction course with
  | shut => exact closed_moved_shut first
  | next _ _ ih => exact closed_moved ih _

/-! ## Marks on the stack -/

theorem mark_of_lies {frame : ConnectionFrame Callback Session} (below : lies frame = true) :
    ∀ stage ∈ mark frame, stage.urgent = false := by
  intro stage marked
  unfold mark at marked
  split at marked <;> cases marked <;> first | rfl | cases below

theorem mark_liftFlusher {frame : Flusher.FlusherFrame Callback} (other : frame ≠ .task .close) :
    mark (liftFlusher frame : ConnectionFrame Callback Session) = none := by
  cases frame with
  | task task => cases task <;> first | rfl | exact absurd rfl other
  | call request => cases request <;> rfl
  | inside request => rfl

theorem not_close_of_mem_step {flusher : Flusher Callback} {task : Flusher.Task Callback} :
    ∀ frame ∈ (Flusher.step flusher task).2, frame ≠ .task .close := by
  have sequel (completion : Flusher.Completion) :
      (completion.sequel : Flusher.Task Callback) ≠ .close := by
    cases completion <;> nofun
  fun_cases Flusher.step flusher task with
  | case46 report => cases report <;> simp
  | _ => simp [sequel]

section Step

variable {connection next : Connection Callback Session} {move : ConnectionMove Callback Session}
variable {taken put rest : List (ConnectionFrame Callback Session)} {stage : Closing Session}

/-- Nothing but raising the closing flag puts a mark on the stack where there was none. -/
theorem work_unmarked (connection : Connection Callback Session) {task : Task Callback Session}
    (unmarked : mark (.task task : ConnectionFrame Callback Session) = none) :
    (step connection task).2.filterMap mark = [] ∨ task = .shut ∧ connection.closed = false := by
  cases task with
  | flusher task =>
      left
      rw [step, List.filterMap_map, List.filterMap_eq_nil_iff]
      exact fun frame member => mark_liftFlusher (not_close_of_mem_step frame member)
  | sweep task =>
      left
      cases task with
      | list purpose => cases purpose <;> first | rfl | cases unmarked
      | next left count purpose =>
          cases purpose with
          | shutdown => cases unmarked
          | demand =>
              rcases left with - | ⟨identifier, left⟩
              · rfl
              · cases found : connection.registry.lookup? identifier <;>
                  simp [step, Registry.sweepStep, Registry.remove, found, liftSweep, mark]
  | hold method => exact .inl (by cases method <;> rfl)
  | shut =>
      cases closed : connection.closed with
      | false => exact .inr ⟨rfl, rfl⟩
      | true => exact .inl (by simp [step, closed])
  | countClosed => cases unmarked
  | react | unregister | identify | route | vet | register | confirm | withdraw =>
      left
      simp only [step]
      split <;> rfl
  | letGo | borrow | countUnregistered | countDatagram | countBytes | countUnidentified
  | countDeclined | countRefused | countCreated => exact .inl rfl

/-- What the flusher relies on in the frames of it that are taken. -/
def FlusherPoised (connection : Connection Callback Session)
    (taken : List (ConnectionFrame Callback Session)) : Prop :=
  ∀ frame ∈ taken, ∀ part ∈ flusherFrame? frame, Flusher.Poised connection.flusher part

theorem exchange_unmarked
    (exchange : Exchange (component Callback Session) connection move taken next put)
    (poised : FlusherPoised connection taken) (unmarked : taken.filterMap mark = []) :
    put.filterMap mark = [] ∨ move = .work .shut ∧ connection.closed = false := by
  rw [List.filterMap_eq_nil_iff] at unmarked
  cases exchange with
  | work task =>
      rcases work_unmarked connection (unmarked _ (List.mem_singleton_self _)) with
        none | ⟨rfl, alive⟩
      · exact .inl none
      · exact .inr ⟨rfl, alive⟩
  | «begin» request =>
      left
      have none := unmarked _ (List.mem_singleton_self _)
      cases request with
      | sweep request =>
          cases request with
          | close session left count purpose => cases purpose <;> first | rfl | cases none
          | report => rfl
      | closeEndpoint => cases none
      | _ => rfl
  | finish request reply =>
      left
      have none := unmarked _ (List.mem_singleton_self _)
      cases request with
      | sweep request =>
          cases request with
          | close session left count purpose => cases purpose <;> first | rfl | cases none
          | report => rfl
      | flusher request =>
          cases request with
          | notify callback outcome following =>
              -- In a run, closing is not among the steps that follow a callback.
              have follows : following.follows = true :=
                poised _ (List.mem_singleton_self _) _ rfl
              cases following <;> first | rfl | cases follows
          | write | failure => rfl
      | closeEndpoint => cases none
      | acquire | assign | discard | interest | shutdownOutput => rfl
      | release buffer ending => cases ending <;> rfl
      | fill buffer => obtain ⟨buffer, cause | ⟨- | - | -⟩⟩ := reply <;> rfl
      | isOpen => obtain - | - := reply <;> rfl
      | create arrival identifier => obtain error | - | session := reply <;> rfl
      | process session arrival identifier => obtain error | consumed := reply <;> rfl
  | enter method => exact .inl (by cases method <;> rfl)

theorem not_tears_of_unmarked
    (exchange : Exchange (component Callback Session) connection move taken next put)
    (unmarked : taken.filterMap mark = []) : tears move = false := by
  rw [List.filterMap_eq_nil_iff] at unmarked
  cases exchange with
  | work task =>
      have none := unmarked _ (List.mem_singleton_self _)
      cases task with
      | sweep task =>
          cases task with
          | list purpose | next left count purpose => cases purpose <;> trivial
      | flusher task => cases task <;> trivial
      | countClosed => cases none
      | _ => rfl
  | «begin» request =>
      have none := unmarked _ (List.mem_singleton_self _)
      cases request with
      | sweep request =>
          cases request with
          | close session left count purpose => cases purpose <;> trivial
          | report => rfl
      | closeEndpoint => cases none
      | _ => rfl
  | finish request reply =>
      have none := unmarked _ (List.mem_singleton_self _)
      cases request with
      | closeEndpoint => cases none
      | _ => rfl
  | enter method => rfl

theorem bystands_of_unmarked
    (exchange : Exchange (component Callback Session) connection move taken next put)
    (fit : ∀ frame ∈ taken, Fit connection frame) (poised : FlusherPoised connection taken)
    (closed : connection.closed = true) (unmarked : taken.filterMap mark = []) :
    Bystands connection move := by
  refine ⟨not_tears_of_unmarked exchange unmarked, ?_, ?_, ?_⟩
  · rintro session identifier buffer rfl
    cases exchange
    have alive : connection.closed = false := fit _ (List.mem_singleton_self _)
    rw [alive] at closed
    cases closed
  · rintro identifier buffer rfl
    cases exchange
    cases fit _ (List.mem_singleton_self _)
  · rintro ticket entry rfl
    cases exchange
    exact (poised _ (List.mem_singleton_self _) _ rfl).1

/-- A move that takes the mark of closing from the stack brings it on as laid down. -/
theorem advance_of_marked {frame : ConnectionFrame Callback Session}
    (exchange : Exchange (component Callback Session) connection move [frame] next put)
    (marked : mark frame = some stage) :
    ∃ later, Advance connection move stage later ∧ later.shown = put.filterMap mark ++ stage.shown.tail := by
  cases exchange with
  | work task =>
      cases task with
      | sweep task =>
          cases task with
          | list purpose =>
              cases purpose <;> cases marked
              exact ⟨_, .list, rfl⟩
          | next left count purpose =>
              cases purpose <;> cases marked
              rcases left with - | ⟨identifier, left⟩
              · exact ⟨_, .finish count, rfl⟩
              · cases found : connection.registry.lookup? identifier with
                | none =>
                    refine ⟨_, .skip identifier left count (Registry.lookup?_eq_none_iff.1 found), ?_⟩
                    simp [component, step, Registry.sweepStep, Registry.remove, found, liftSweep, mark,
                      Closing.shown]
                | some session =>
                    refine ⟨_, .remove identifier session left count
                      (Registry.lookup?_eq_some_iff.1 found), ?_⟩
                    simp [component, step, Registry.sweepStep, Registry.remove, found, liftSweep, mark,
                      Closing.shown]
      | countClosed closed =>
          cases marked
          exact ⟨_, .count closed, rfl⟩
      | flusher task =>
          cases task <;> cases marked
          exact ⟨_, .halt, rfl⟩
      | _ => cases marked
  | «begin» request =>
      cases request with
      | sweep request =>
          cases request with
          | close session left count purpose =>
              cases purpose <;> cases marked
              exact ⟨_, .close session left count, rfl⟩
          | report => cases marked
      | closeEndpoint =>
          cases marked
          exact ⟨_, .leave, rfl⟩
      | flusher request => cases request <;> cases marked
      | _ => cases marked
  | finish request reply =>
      cases request with
      | sweep request =>
          cases request with
          | close session left count purpose =>
              cases purpose <;> cases marked
              refine ⟨_, .pass _ _ rfl ⟨rfl, ?_, ?_, ?_⟩, rfl⟩
              · rintro _ _ _ ⟨⟩
              · rintro _ _ ⟨⟩
              · rintro _ _ ⟨⟩
          | report => cases marked
      | closeEndpoint =>
          cases marked
          exact ⟨_, .left, rfl⟩
      | flusher request => cases request <;> cases marked
      | _ => cases marked

end Step

/-! ## Whole runs -/

theorem flusherPoised_of_run {config : Config} {first connection : Connection Callback Session}
    {moves : List (ConnectionMove Callback Session)}
    {taken rest : List (ConnectionFrame Callback Session)}
    (opened : Connection.new config = .ok first)
    (run : Run (component Callback Session) first [] moves connection (taken ++ rest))
    (single : taken.length ≤ 1) : FlusherPoised connection taken := by
  intro frame member part shown
  have nested := (Flusher.Serial.of_run (flusher_run opened run)).nested
  apply nested.top
  rcases taken with - | ⟨only, - | ⟨second, taken⟩⟩
  · cases member
  · obtain rfl := List.mem_singleton.1 member
    rw [List.singleton_append, List.filterMap_cons_some shown]
    rfl
  · simp at single

theorem length_taken_le {connection next : Connection Callback Session} {move taken put}
    (exchange : Exchange (component Callback Session) connection move taken next put) :
    taken.length ≤ 1 := by
  cases exchange <;> simp

/-- Once the closing flag is raised, every move is part of the course of closing. -/
theorem advance_of_step {config : Config} {first connection next : Connection Callback Session}
    {moves : List (ConnectionMove Callback Session)} {move : ConnectionMove Callback Session}
    {stack nextStack : List (ConnectionFrame Callback Session)} {stage : Closing Session}
    (opened : Connection.new config = .ok first)
    (run : Run (component Callback Session) first [] moves connection stack)
    (step : Step (component Callback Session) connection stack move next nextStack)
    (closed : connection.closed = true) (shown : stack.filterMap mark = stage.shown) :
    ∃ later, Advance connection move stage later ∧ nextStack.filterMap mark = later.shown := by
  obtain ⟨taken, put, rest, rfl, rfl, exchange, fit, below⟩ := (Nested.of_run run).exchange step
  have poised := flusherPoised_of_run opened run (length_taken_le exchange)
  rw [List.filterMap_append] at shown ⊢
  -- There is at most one mark on the stack: either the move takes it away, or it waits below.
  cases marked : taken.filterMap mark with
  | nil =>
      rw [marked, List.nil_append] at shown
      -- Nothing that lies below other frames is urgent.
      have calm : stage.urgent = false := by
        refine Closing.not_urgent_of_shown fun other member => ?_
        obtain ⟨frame, inRest, shows⟩ := List.mem_filterMap.1 (shown ▸ member)
        exact mark_of_lies (below frame inRest).1 other shows
      have unmarked : put.filterMap mark = [] := by
        rcases exchange_unmarked exchange poised marked with none | ⟨-, alive⟩
        · exact none
        · rw [alive] at closed
          cases closed
      refine ⟨stage, .pass move stage calm (bystands_of_unmarked exchange fit poised closed marked), ?_⟩
      rw [unmarked, List.nil_append]
      exact shown
  | cons here others =>
      have single := length_taken_le exchange
      rcases taken with - | ⟨frame, - | ⟨second, taken⟩⟩
      · cases marked
      · have shows : mark frame = some here ∧ others = [] := by
          rw [List.filterMap_cons] at marked
          split at marked <;> cases marked
          exact ⟨by assumption, rfl⟩
        obtain ⟨shows, rfl⟩ := shows
        rw [marked, List.singleton_append] at shown
        obtain rfl := Closing.eq_of_shown shown
        obtain ⟨later, advance, laterShown⟩ := advance_of_marked exchange shows
        refine ⟨later, advance, ?_⟩
        rw [laterShown, ← shown, List.tail_cons]
      · simp at single

/-- As long as the connection is open, nothing has to do with closing. -/
structure Untouched (moves : List (ConnectionMove Callback Session))
    (stack : List (ConnectionFrame Callback Session)) : Prop where
  unmarked : stack.filterMap mark = []
  calm : ∀ move ∈ moves, tears move = false
  unshut : .work .shut ∉ moves

theorem untouched_of_run {config : Config} {first last : Connection Callback Session}
    {moves : List (ConnectionMove Callback Session)}
    {stack : List (ConnectionFrame Callback Session)} (opened : Connection.new config = .ok first)
    (run : Run (component Callback Session) first [] moves last stack)
    (alive : last.closed = false) : Untouched moves stack := by
  refine run.invariant_of_reached (fun moves connection stack =>
    connection.closed = false → Untouched moves stack) ?_ ?_ alive
  · intro moves connection stack move next nextStack run step before alive
    obtain ⟨taken, put, rest, rfl, rfl, exchange, fit, below⟩ := (Nested.of_run run).exchange step
    obtain rfl := moved_of_exchange exchange
    have earlier : connection.closed = false := by
      by_contra closed
      rw [closed_moved (by simpa using closed) move] at alive
      cases alive
    have other : move ≠ .work .shut := by
      rintro rfl
      rw [closed_moved_shut] at alive
      cases alive
    obtain ⟨unmarked, calm, unshut⟩ := before earlier
    rw [List.filterMap_append, List.append_eq_nil_iff] at unmarked
    refine ⟨?_, fun old member => ?_, fun member => ?_⟩
    · rcases exchange_unmarked exchange (flusherPoised_of_run opened run (length_taken_le exchange))
        unmarked.1 with none | ⟨shut, -⟩
      · rw [List.filterMap_append, none, unmarked.2, List.nil_append]
      · exact absurd shut other
    · rcases List.mem_append.1 member with old | new
      · exact calm _ old
      · rw [List.mem_singleton.1 new]
        exact not_tears_of_unmarked exchange unmarked.1
    · rcases List.mem_append.1 member with old | new
      · exact unshut old
      · exact other (List.mem_singleton.1 new).symm
  · exact fun _ => ⟨rfl, fun _ member => (nomatch member), fun member => nomatch member⟩

/-- From the move that raises the closing flag on, a run is the course of closing. -/
theorem exists_course {config : Config} {first middle last : Connection Callback Session}
    {before during : List (ConnectionMove Callback Session)}
    {rest stack : List (ConnectionFrame Callback Session)}
    (opened : Connection.new config = .ok first)
    (reached : Run (component Callback Session) first [] before middle (.task .shut :: rest))
    (run : Run (component Callback Session) middle (.task .shut :: rest) during last stack)
    (alive : middle.closed = false) :
    during = [] ∧ last = middle ∧ stack = .task .shut :: rest ∨
      ∃ stage, Course middle during last stage ∧ stack.filterMap mark = stage.shown := by
  refine run.invariant_of_reached (fun during last stack =>
    during = [] ∧ last = middle ∧ stack = .task .shut :: rest ∨
      ∃ stage, Course middle during last stage ∧ stack.filterMap mark = stage.shown) ?_
    (.inl ⟨rfl, rfl, rfl⟩)
  intro during connection stack move next nextStack run step holds
  right
  rcases holds with ⟨rfl, rfl, rfl⟩ | ⟨stage, course, shown⟩
  · have unmarked := (untouched_of_run opened reached alive).unmarked
    cases step with
    | work task rest free =>
        refine ⟨.listing, .shut alive, ?_⟩
        rw [List.filterMap_append]
        have none : rest.filterMap mark = [] := unmarked
        rw [none, List.append_nil]
        simp [component, Connection.step, alive, mark, Closing.shown]
    | enter method _ enterable => cases enterable _ rfl
  · obtain ⟨later, advance, laterShown⟩ :=
      advance_of_step opened (reached.append run) step course.closed shown
    obtain ⟨taken, put, rest, rfl, rfl, exchange⟩ := step.exchange
    obtain rfl := moved_of_exchange exchange
    exact ⟨later, course.next advance, laterShown⟩

end DatagramMux.Connection
