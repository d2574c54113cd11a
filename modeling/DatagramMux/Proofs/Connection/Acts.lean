import DatagramMux.Proofs.Connection.Life

/-!
# What a move means to sessions

Only a few of the moves of a connection are about sessions. This module lists them, with the frames
that they take away and put in their place, and shows that all other moves leave the registry alone.
-/

namespace DatagramMux.Connection

open Component

variable {Callback Session : Type}

/-- A frame on top of the stack that has nothing to do with the stages of sessions. -/
def Aside : ConnectionFrame Callback Session → Prop
  | .call (.assign _ _ _) | .inside (.assign _ _ _) | .task (.vet _ _ _)
  | .task (.register _ _ _) | .task (.countRefused _ _) | .call (.discard _ _)
  | .call (.sweep (.close _ _ _ _)) => False
  | _ => True

/--
A move with the frames that it takes away and puts in their place, as far as sessions are concerned.
-/
inductive Act (connection : Connection Callback Session) :
    ConnectionMove Callback Session → List (ConnectionFrame Callback Session) →
      Connection Callback Session → List (ConnectionFrame Callback Session) → Prop where
  | plain (move : ConnectionMove Callback Session)
      (taken : List (ConnectionFrame Callback Session)) (next : Connection Callback Session)
      (put : List (ConnectionFrame Callback Session)) :
      (∀ session stage,
          (∀ identifier ∉ connection.registry.identifiers, stage ≠ .registered identifier) →
            ¬Concerns session stage move) →
        (∀ frame ∈ taken, Aside frame) → (∀ frame ∈ put, Aside frame) →
          next.registry = connection.registry → Act connection move taken next put
  | create (arrival : Arrival) (identifier : ConnectionId) (session : Session) :
      connection.identifier? arrival.datagram = some identifier →
        Act connection (.finish (.create arrival identifier) (.ok (some session)))
          [.inside (.create arrival identifier)] connection
          [.call (.assign session identifier arrival.buffer)]
  | inform (session : Session) (identifier : ConnectionId) (buffer : Buffer) :
      Act connection (.begin (.assign session identifier buffer))
        [.call (.assign session identifier buffer)] connection
        [.inside (.assign session identifier buffer)]
  | informed (session : Session) (identifier : ConnectionId) (buffer : Buffer) :
      Act connection (.finish (.assign session identifier buffer) ())
        [.inside (.assign session identifier buffer)] connection
        [.task (.vet session identifier buffer)]
  | refuse (session : Session) (identifier : ConnectionId) (buffer : Buffer) :
      connection.closed = true →
        Act connection (.work (.vet session identifier buffer))
          [.task (.vet session identifier buffer)] connection [.call (.discard session buffer)]
  | accept (session : Session) (identifier : ConnectionId) (buffer : Buffer) :
      connection.closed = false →
        Act connection (.work (.vet session identifier buffer))
          [.task (.vet session identifier buffer)] connection
          [.task (.register session identifier buffer)]
  | register (session : Session) (identifier : ConnectionId) (buffer : Buffer)
      (next : Connection Callback Session) : identifier ∉ connection.registry.identifiers →
        next.registry.entries = connection.registry.entries ++ [(identifier, session)] →
          Act connection (.work (.register session identifier buffer))
            [.task (.register session identifier buffer)] next [.task (.confirm identifier buffer)]
  | collide (session : Session) (identifier : ConnectionId) (buffer : Buffer) :
      identifier ∈ connection.registry.identifiers →
        Act connection (.work (.register session identifier buffer))
          [.task (.register session identifier buffer)] connection
          [.task (.countRefused session buffer)]
  | countRefused (session : Session) (buffer : Buffer) (next : Connection Callback Session) :
      next.registry = connection.registry →
        Act connection (.work (.countRefused session buffer)) [.task (.countRefused session buffer)]
          next [.call (.discard session buffer)]
  | discard (session : Session) (buffer : Buffer) :
      Act connection (.begin (.discard session buffer)) [.call (.discard session buffer)] connection
        [.inside (.discard session buffer)]
  | process (session : Session) (arrival : Arrival) (identifier : ConnectionId) :
      connection.identifier? arrival.datagram = some identifier →
        (identifier, session) ∈ connection.registry.entries →
          Act connection (.begin (.process session arrival identifier))
            [.call (.process session arrival identifier)] connection
            [.inside (.process session arrival identifier)]
  | release (session : Session) (identifier : ConnectionId)
      (next : Connection Callback Session) :
      (identifier, session) ∈ connection.registry.entries →
        next.registry = connection.registry.erase identifier →
          Act connection (.work (.unregister identifier)) [.task (.unregister identifier)]
            next [.task .countUnregistered]
  | remove (session : Session) (identifier : ConnectionId) (left : List ConnectionId)
      (count : Nat) (purpose : Purpose) (next : Connection Callback Session) :
      (identifier, session) ∈ connection.registry.entries →
        next.registry = connection.registry.erase identifier →
          Act connection (.work (.sweep (.next (identifier :: left) count purpose)))
            [.task (.sweep (.next (identifier :: left) count purpose))] next
            [.call (.sweep (.close session left count purpose))]
  | close (session : Session) (left : List ConnectionId) (count : Nat) (purpose : Purpose) :
      Act connection (.begin (.sweep (.close session left count purpose)))
        [.call (.sweep (.close session left count purpose))] connection
        [.inside (.sweep (.close session left count purpose))]

theorem aside_liftFlusher (frame : Flusher.FlusherFrame Callback) :
    Aside (liftFlusher frame : ConnectionFrame Callback Session) :=
  forall_liftFlusher (fun _ => trivial) trivial (fun _ => trivial) (fun _ => trivial) frame

section

variable {connection next : Connection Callback Session} {move : ConnectionMove Callback Session}
variable {frame other : ConnectionFrame Callback Session}

theorem aside_nil : ∀ frame ∈ ([] : List (ConnectionFrame Callback Session)), Aside frame :=
  fun _ member => (nomatch member)

theorem aside_singleton (aside : Aside frame) : ∀ other ∈ [frame], Aside other := by
  intro other member
  exact List.mem_singleton.1 member ▸ aside

theorem Act.turn (never : ∀ session stage, ¬Concerns session stage move) (taken : Aside frame)
    (put : Aside other) (registry : next.registry = connection.registry) :
    Act connection move [frame] next [other] :=
  .plain _ _ _ _ (fun session stage _ => never session stage) (aside_singleton taken)
    (aside_singleton put) registry

theorem Act.leave (never : ∀ session stage, ¬Concerns session stage move) (taken : Aside frame)
    (registry : next.registry = connection.registry) : Act connection move [frame] next [] :=
  .plain _ _ _ _ (fun session stage _ => never session stage) (aside_singleton taken) aside_nil
    registry

end

theorem work_act {connection : Connection Callback Session} {task : Task Callback Session}
    (fit : Fit connection (.task task)) :
    Act connection (.work task) [.task task] (step connection task).1 (step connection task).2 := by
  cases task with
  | hold method =>
      refine .plain _ _ _ _ (fun _ _ _ => id) (aside_singleton trivial) (fun frame member => ?_) rfl
      rcases List.mem_pair.1 member with rfl | rfl
      · cases method <;> trivial
      · trivial
  | letGo | countUnregistered => exact .leave (fun _ _ => id) trivial rfl
  | borrow | countDatagram | countBytes | countUnidentified | countDeclined | countCreated =>
      exact .turn (fun _ _ => id) trivial trivial rfl
  | flusher task =>
      refine .plain _ _ _ _ (fun _ _ _ => id) (aside_singleton trivial) (fun frame member => ?_) rfl
      obtain ⟨part, -, rfl⟩ := List.mem_map.1 member
      exact aside_liftFlusher part
  | sweep task =>
      cases task with
      | list purpose => exact .turn (fun _ _ => id) trivial trivial rfl
      | next left count purpose =>
          rcases left with - | ⟨identifier, left⟩
          · cases purpose <;>
              exact .turn (fun _ _ => id) trivial trivial rfl
          · cases found : connection.registry.lookup? identifier with
            | none =>
                have absent := Registry.lookup?_eq_none_iff.1 found
                simp only [step, Registry.sweepStep, Registry.remove, found]
                exact .plain _ _ _ _ (fun _ _ apart concerns => apart identifier absent concerns)
                  (aside_singleton trivial) (aside_singleton trivial) rfl
            | some session =>
                have member := Registry.lookup?_eq_some_iff.1 found
                simp only [step, Registry.sweepStep, Registry.remove, found]
                exact .remove session identifier left count purpose _ member rfl
  | react =>
      simp only [step]
      split
      · exact .leave (fun _ _ => id) trivial rfl
      · refine .plain _ _ _ _ (fun _ _ _ => id) (aside_singleton trivial) (fun frame member => ?_) rfl
        rcases List.mem_pair.1 member with rfl | rfl <;> trivial
  | shut =>
      simp only [step]
      split
      · exact .leave (fun _ _ => id) trivial rfl
      · exact .turn (fun _ _ => id) trivial trivial rfl
  | countClosed count =>
      refine .plain _ _ _ _ (fun _ _ _ => id) (aside_singleton trivial) (fun frame member => ?_) rfl
      rcases List.mem_pair.1 member with rfl | rfl <;> trivial
  | unregister identifier =>
      cases found : connection.registry.lookup? identifier with
      | none =>
          have absent := Registry.lookup?_eq_none_iff.1 found
          simp only [step, Registry.remove, found]
          exact .plain _ _ _ _ (fun _ _ apart concerns => apart identifier absent concerns)
            (aside_singleton trivial) aside_nil rfl
      | some session =>
          have member := Registry.lookup?_eq_some_iff.1 found
          simp only [step, Registry.remove, found]
          exact .release session identifier _ member rfl
  | identify arrival =>
      simp only [step]
      split <;> exact .turn (fun _ _ => id) trivial trivial rfl
  | route arrival identifier =>
      simp only [step]
      split <;> exact .turn (fun _ _ => id) trivial trivial rfl
  | vet session identifier buffer =>
      simp only [step]
      split
      · rename_i closed
        exact .refuse session identifier buffer closed
      · rename_i alive
        exact .accept session identifier buffer (by simpa using alive)
  | register session identifier buffer =>
      cases inserted : connection.registry.insert? identifier session with
      | none =>
          simp only [step, inserted]
          exact .collide session identifier buffer (Registry.insert?_eq_none_iff.1 inserted)
      | some registry =>
          have free : identifier ∉ connection.registry.identifiers := by
            intro taken
            have refused : connection.registry.insert? identifier session = none :=
              Registry.insert?_eq_none_iff.2 taken
            rw [inserted] at refused
            cases refused
          simp only [step, inserted]
          exact .register session identifier buffer _ free (Registry.entries_of_insert? inserted)
  | countRefused session buffer => exact .countRefused session buffer _ rfl
  | confirm identifier buffer =>
      simp only [step]
      split <;> exact .turn (fun _ _ => id) trivial trivial rfl
  | withdraw => cases fit

theorem begin_act {connection : Connection Callback Session} {request : Request Callback Session}
    (fit : Fit connection (.call request)) :
    Act connection (.begin request) [.call request] connection [.inside request] := by
  cases request with
  | acquire | release | fill | interest | shutdownOutput | isOpen | closeEndpoint | create
  | flusher => exact .turn (fun _ _ => id) trivial trivial rfl
  | assign session identifier buffer => exact .inform session identifier buffer
  | process session arrival identifier => exact .process session arrival identifier fit.1 fit.2
  | discard session buffer => exact .discard session buffer
  | sweep request =>
      cases request with
      | close session left count purpose => exact .close session left count purpose
      | report => exact .turn (fun _ _ => id) trivial trivial rfl

theorem finish_act {connection : Connection Callback Session} {request : Request Callback Session}
    (fit : Fit connection (.inside request)) (reply : Reply request) :
    Act connection (.finish request reply) [.inside request] connection
      (resumed request reply) := by
  cases request with
  | acquire | discard =>
      exact .turn (fun _ _ => id) trivial trivial rfl
  | interest | shutdownOutput | closeEndpoint =>
      exact .leave (fun _ _ => id) trivial rfl
  | release buffer ending =>
      cases ending <;>
        exact .turn (fun _ _ => id) trivial trivial rfl
  | fill buffer =>
      obtain ⟨buffer, cause | ⟨- | - | -⟩⟩ := reply <;>
        exact .turn (fun _ _ => id) trivial trivial rfl
  | isOpen =>
      obtain - | - := reply
      · exact .leave (fun _ _ => id) trivial rfl
      · exact .turn (fun _ _ => id) trivial trivial rfl
  | create arrival identifier =>
      obtain error | - | session := reply
      · exact .turn (fun _ _ => id) trivial trivial rfl
      · exact .turn (fun _ _ => id) trivial trivial rfl
      · exact .create arrival identifier session fit
  | assign session identifier buffer => exact .informed session identifier buffer
  | process session arrival identifier =>
      obtain error | consumed := reply <;>
        exact .turn (fun _ _ => id) trivial trivial rfl
  | sweep request =>
      cases request with
      | close =>
          exact .turn (fun _ _ => id) trivial trivial rfl
      | report => exact .leave (fun _ _ => id) trivial rfl
  | flusher request =>
      cases request with
      | write | notify =>
          exact .turn (fun _ _ => id) trivial trivial rfl
      | failure => exact .leave (fun _ _ => id) trivial rfl

theorem exchange_act {connection next : Connection Callback Session} {move taken put}
    (fit : ∀ frame ∈ taken, Fit connection frame)
    (exchange : Exchange (component Callback Session) connection move taken next put) :
    Act connection move taken next put := by
  cases exchange with
  | work task => exact work_act (fit _ (List.mem_singleton_self _))
  | «begin» request => exact begin_act (fit _ (List.mem_singleton_self _))
  | finish request reply => exact finish_act (fit _ (List.mem_singleton_self _)) reply
  | enter method =>
      refine .plain _ _ _ _ (fun _ _ _ => id) aside_nil (aside_singleton ?_) rfl
      cases method <;> trivial

end DatagramMux.Connection
