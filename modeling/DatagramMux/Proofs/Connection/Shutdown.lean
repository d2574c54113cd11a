import DatagramMux.Proofs.Connection.Closing
import DatagramMux.Proofs.Connection.Lifecycle
import DatagramMux.Proofs.Registry.Sweeping

/-!
# Closing a connection while others read

Several threads may read from an endpoint and create sessions while the connection is closed by
others. A session may then be registered just after the identifiers were listed, when closing will
not find it any more; but whoever registers a session looks at the closing flag once more, and takes
out what is registered under the identifier if it has been raised. So every registered session of a
closed connection has a thread that is going to take its identifier out, and it is closed by the one
that removes it.
-/

namespace DatagramMux.Connection

open Component Registry

variable {Callback Session : Type}

/-- Threads that use a connection, and which identifiers have lasted. -/
abbrev ConnectionWatch (Callback Session : Type) :=
  Watched (Connection Callback Session) (Task Callback Session) (Request Callback Session)
    ConnectionId

/-- How the identifiers of a connection's sessions are listed. -/
def listing (Callback Session : Type) :
    Listing (Connection Callback Session) (Task Callback Session) ConnectionId where
  keys connection := connection.registry.identifiers
  follow?
    | .sweep (.list purpose) => some fun identifiers => .sweep (.next identifiers 0 purpose)
    | _ => none

variable {connection next : Connection Callback Session} {move : ConnectionMove Callback Session}
variable {taken put : List (ConnectionFrame Callback Session)} {lasting : ConnectionId → Prop}

/-! ## Who is in charge of a session -/

/-- The session that a frame is in charge of, because it is not registered or not any more. -/
@[simp]
def charge : ConnectionFrame Callback Session → List Session
  | .call (.assign session _ _) | .inside (.assign session _ _) | .task (.vet session _ _)
  | .task (.register session _ _) | .task (.countRefused session _) | .call (.discard session _)
  | .call (.sweep (.close session _ _ _)) => [session]
  | _ => []

theorem charge_liftFlusher (frame : Flusher.FlusherFrame Callback) :
    charge (liftFlusher frame : ConnectionFrame Callback Session) = [] :=
  @forall_liftFlusher Callback Session (fun frame => charge frame = []) (fun _ => rfl) rfl
    (fun _ => rfl) (fun _ => rfl) frame

section Charged

variable [DecidableEq Session]

def charged (session : Session) : Multiset (ConnectionFrame Callback Session) → Nat :=
  total fun frame => (charge frame).count session

@[simp]
theorem charged_zero (session : Session) :
    charged session (0 : Multiset (ConnectionFrame Callback Session)) = 0 := rfl

@[simp]
theorem charged_singleton (session : Session) (frame : ConnectionFrame Callback Session) :
    charged session {frame} = (charge frame).count session :=
  total_singleton _ frame

@[simp]
theorem charged_cons (session : Session) (frame : ConnectionFrame Callback Session)
    (frames : List (ConnectionFrame Callback Session)) :
    charged session (↑(frame :: frames) : Multiset (ConnectionFrame Callback Session)) =
      (charge frame).count session +
        charged session (↑frames : Multiset (ConnectionFrame Callback Session)) := by
  rw [← Multiset.cons_coe, charged, total_cons]

theorem charged_liftFlusher (session : Session) (frames : List (Flusher.FlusherFrame Callback)) :
    charged session (↑(frames.map liftFlusher : List (ConnectionFrame Callback Session)) :
      Multiset (ConnectionFrame Callback Session)) = 0 := by
  induction frames with
  | nil => rfl
  | cons frame frames ih => rw [List.map_cons, charged_cons, charge_liftFlusher, ih, List.count_nil]

theorem charged_sweepResume (session : Session) (request : SweepRequest Session Purpose) :
    charged session (↑((sweepResume request).map liftSweep : List (ConnectionFrame Callback Session)) :
      Multiset (ConnectionFrame Callback Session)) = 0 := by
  cases request <;> simp [sweepResume, liftSweep]

/-- A task hands a session over to another frame or to the registry, or takes it out of there. -/
theorem charged_work (connection : Connection Callback Session) {task : Task Callback Session}
    (keeps : ∀ identifier, task ≠ .unregister identifier) (session : Session) :
    charged session (↑(step connection task).2 : Multiset (ConnectionFrame Callback Session)) +
        (sessions (step connection task).1.registry).count session =
      (charge (.task task)).count session + (sessions connection.registry).count session := by
  cases task with
  | hold method => cases method <;> simp [step, begun]
  | flusher task => simp [step, charged_liftFlusher]
  | sweep task =>
      rcases task with _ | ⟨_ | ⟨identifier, left⟩, closed, purpose⟩
      · simp [step, sweepStep, liftSweep]
      · cases purpose <;> simp [step, sweepStep, liftSweep]
      · have removal := count_remove connection.registry identifier session
        simp only [step, sweepStep]
        generalize connection.registry.remove identifier = outcome at removal ⊢
        rcases outcome with ⟨remaining, _ | removed⟩ <;> simp [liftSweep, removal]
  | unregister identifier => exact absurd rfl (keeps identifier)
  | register submitted identifier buffer =>
      simp only [step]
      rcases inserted : connection.registry.insert? identifier submitted with _ | extended
      · simp
      · simp [sessions, entries_of_insert? inserted, Nat.add_comm]
  | withdraw identifier buffer =>
      have removal := count_remove connection.registry identifier session
      simp only [step]
      generalize connection.registry.remove identifier = outcome at removal ⊢
      rcases outcome with ⟨remaining, _ | removed⟩ <;> simp [refill, removal]
  | react | shut | identify | route | vet | confirm =>
      simp only [step]
      split <;> simp
  | _ => simp [step, refill]

theorem charged_resumed (request : Request Callback Session) (reply : Reply request)
    (session : Session) :
    charged session (↑(resumed request reply) : Multiset (ConnectionFrame Callback Session)) =
      (born (.finish request reply : ConnectionMove Callback Session)).toList.count session +
        (charge (.inside request : ConnectionFrame Callback Session)).count session := by
  fun_cases resumed request reply
  all_goals simp [born, refill, charged_liftFlusher, charged_sweepResume]

/-- What is done with a session in a move, as far as being in charge of it is concerned. -/
theorem charged_exchange
    (exchange : WatchedExchange (component Callback Session) (listing Callback Session) connection
      lasting move taken next put)
    (keeps : ∀ identifier, move ≠ .work (.unregister identifier)) (session : Session) :
    [move].countP (closes session) +
        charged session (↑put : Multiset (ConnectionFrame Callback Session)) +
        (sessions next.registry).count session =
      ([move].filterMap born).count session +
        charged session (↑taken : Multiset (ConnectionFrame Callback Session)) +
        (sessions connection.registry).count session := by
  cases exchange with
  | plain exchange =>
      cases exchange with
      | work task _ =>
          have work := charged_work connection (fun identifier same =>
            keeps identifier (congrArg Move.work same)) session
          simpa [component, filterMap_singleton, born, closes] using work
      | «begin» request =>
          rcases request with _ | _ | _ | _ | _ | _ | _ | _ | _ | _ | _ | ⟨_ | _⟩ | _
          all_goals simp [filterMap_singleton, List.count_singleton, born, closes]
      | finish request reply =>
          have resumed := charged_resumed request reply session
          simpa [component, filterMap_singleton, closes] using resumed
      | enter method =>
          cases method
          all_goals simp [component, begun, Method.holds, filterMap_singleton, born, closes]
  | @list task _ keys follows _ =>
      cases task with
      | sweep task =>
          cases task <;> cases follows
          simp [filterMap_singleton, born, closes]
      | _ => cases follows

end Charged

/-! ## Nobody else takes sessions out -/

/-- Whether a session closes itself. -/
def departs : ConnectionMove Callback Session → Bool
  | .enter (.closeSession _) => true
  | _ => false

/-- Whether a frame is going to take out a session that closes itself. -/
def dismisses : ConnectionFrame Callback Session → Bool
  | .task (.hold (.closeSession _)) | .task (.unregister _) => true
  | _ => false

theorem dismisses_of_mem_flusher {frames : List (Flusher.FlusherFrame Callback)} :
    ∀ frame ∈ (frames.map liftFlusher : List (ConnectionFrame Callback Session)),
      dismisses frame = false :=
  forall_mem_liftFlusher (fun frame => dismisses frame = false) (fun _ => rfl) rfl (fun _ => rfl)
    (fun _ => rfl) frames

theorem dismisses_of_mem_sweep {frames : List (SweepFrame Session Purpose)} :
    ∀ frame ∈ (frames.map liftSweep : List (ConnectionFrame Callback Session)),
      dismisses frame = false :=
  forall_mem_liftSweep (fun frame => dismisses frame = false) (fun _ => rfl) (fun _ => rfl)
    (fun _ => rfl) (fun _ => rfl) frames

/-- Only a session that closes itself is taken out in this way. -/
theorem not_dismisses_of_exchange
    (exchange : WatchedExchange (component Callback Session) (listing Callback Session) connection
      lasting move taken next put)
    (other : departs move = false) (before : ∀ frame ∈ taken, dismisses frame = false) :
    ∀ frame ∈ put, dismisses frame = false := by
  cases exchange with
  | plain exchange =>
      cases exchange with
      | work task _ =>
          have here := before _ (List.mem_singleton_self _)
          change ∀ frame ∈ (step connection task).2, dismisses frame = false
          cases task with
          | hold method => cases method <;> simp_all [step, begun, dismisses]
          | flusher task => exact dismisses_of_mem_flusher
          | sweep task => exact dismisses_of_mem_sweep
          | unregister identifier => cases here
          | react | shut | identify | route | vet | register | confirm | withdraw =>
              simp only [step]
              split <;> simp [refill, dismisses]
          | _ => simp [step, refill, dismisses]
      | «begin» request => simp [dismisses]
      | finish request reply =>
          change ∀ frame ∈ resumed request reply, dismisses frame = false
          fun_cases resumed request reply
          all_goals first
            | exact dismisses_of_mem_flusher
            | exact dismisses_of_mem_sweep
            | simp [refill, dismisses]
      | enter method =>
          cases method with
          | closeSession identifier => cases other
          | _ => simp [component, begun, Method.holds, dismisses]
  | @list task _ keys follows _ =>
      cases task with
      | sweep task =>
          cases task <;> cases follows
          simp [dismisses]
      | _ => cases follows

/-- What the factory has made is in the hands of a frame, or registered, or has been closed. -/
structure Accounted [DecidableEq Session] (moves : List (ConnectionMove Callback Session))
    (connection : Connection Callback Session) (frames : Multiset (ConnectionFrame Callback Session)) :
    Prop where
  none : ∀ frame ∈ frames, dismisses frame = false
  whole (session : Session) : (moves.filterMap born).count session =
    charged session frames + (sessions connection.registry).count session +
      moves.countP (closes session)

theorem accounted_of_run [DecidableEq Session] {config : Config}
    {first last : ConnectionWatch Callback Session}
    {moves : List (Nat × ConnectionMove Callback Session)}
    (opened : Connection.new config = .ok first.threads.state) (idle : first.threads.Quiet)
    (run : WatchedRun (component Callback Session) (listing Callback Session) first moves last)
    (stay : (moves.map Prod.snd).any departs = false) :
    Accounted (moves.map Prod.snd) last.threads.state last.threads.gathered := by
  refine run.invariant_of_exchange (fun moves connection frames =>
    moves.any departs = false → Accounted moves connection frames) ?_ (fun _ => ?_) stay
  · intro moves connection lasting move taken next put rest exchange before stay
    rw [List.any_append, Bool.or_eq_false_iff] at stay
    obtain ⟨none, whole⟩ := before stay.1
    simp only [Multiset.mem_add, Multiset.mem_coe] at none
    have keeps : ∀ identifier, move ≠ .work (.unregister identifier) := by
      rintro identifier rfl
      obtain ⟨⟨_, _⟩⟩ | ⟨_, follows, _⟩ := exchange
      · cases none _ (.inl (List.mem_singleton_self _))
      · cases follows
    constructor
    · intro frame member
      rcases Multiset.mem_add.1 member with new | old
      · exact not_dismisses_of_exchange exchange (by simpa using stay.2)
          (fun frame member => none frame (.inl member)) frame (Multiset.mem_coe.1 new)
      · exact none frame (.inr old)
    · intro session
      have exchanged := charged_exchange exchange keeps session
      have before := whole session
      simp only [charged, total_add, List.filterMap_append, List.count_append, List.countP_append] at *
      omega
  · rw [gathered_of_quiet idle, new_eq opened]
    refine ⟨fun frame member => absurd member (Multiset.notMem_zero frame), fun session => ?_⟩
    simp [sessions, Registry.empty]

/-! ## Somebody takes every session out -/

theorem registry_step_unregister (connection : Connection Callback Session)
    (identifier : ConnectionId) :
    (step connection (.unregister identifier)).1.registry = connection.registry.erase identifier := by
  rw [← fst_remove]
  simp only [step]
  rcases connection.registry.remove identifier with ⟨remaining, _ | session⟩ <;> rfl

theorem registry_step_withdraw (connection : Connection Callback Session)
    (identifier : ConnectionId) (buffer : Buffer) :
    (step connection (.withdraw identifier buffer)).1.registry =
      connection.registry.erase identifier := by
  rw [← fst_remove]
  simp only [step]
  rcases connection.registry.remove identifier with ⟨remaining, _ | session⟩ <;> rfl

/-- Whether a frame is going to take out what is registered under an identifier. -/
def Clears (lasting : ConnectionId → Prop) (identifier : ConnectionId) :
    ConnectionFrame Callback Session → Prop
  | .task (.sweep (.list _)) => lasting identifier
  | .task (.sweep (.next left _ _)) | .call (.sweep (.close _ left _ _))
  | .inside (.sweep (.close _ left _ _)) => identifier ∈ left
  | .task (.confirm other _) | .task (.withdraw other _) => other = identifier
  | _ => False

theorem Clears.mono {lasting later : ConnectionId → Prop} {identifier : ConnectionId}
    {frame : ConnectionFrame Callback Session} (still : lasting identifier → later identifier)
    (clears : Clears lasting identifier frame) : Clears later identifier frame := by
  unfold Clears at clears ⊢
  split at clears <;> first | exact still clears | exact clears

/-- A frame that is going to clear an identifier does so, or leaves it to the next one. -/
theorem Clears.exchange {later : ConnectionId → Prop} {identifier : ConnectionId}
    {frame : ConnectionFrame Callback Session}
    (exchange : WatchedExchange (component Callback Session) (listing Callback Session) connection
      lasting move [frame] next put)
    (closed : connection.closed = true) (here : identifier ∈ next.registry.identifiers)
    (clears : Clears lasting identifier frame) :
    ∃ following ∈ put, Clears later identifier following := by
  cases exchange with
  | plain exchange =>
      cases exchange with
      | work task _ =>
          cases task with
          | sweep task =>
              rcases task with _ | ⟨_ | ⟨other, left⟩, count, purpose⟩
              · exact ⟨_, List.mem_singleton_self _, here⟩
              · cases clears
              · simp only [component, step, sweepStep_next] at here ⊢
                have different : ¬ identifier = other := by simp_all
                have later := (List.mem_cons.1 clears).resolve_left different
                split
                all_goals exact ⟨_, List.mem_singleton_self _, later⟩
          | confirm other buffer =>
              simp only [component, step, closed, if_true]
              exact ⟨_, List.mem_singleton_self _, clears⟩
          | withdraw other buffer =>
              obtain rfl : other = identifier := clears
              simp [component, registry_step_withdraw] at here
          | _ => cases clears
      | «begin» request =>
          cases request with
          | sweep request =>
              cases request
              · exact ⟨_, List.mem_singleton_self _, clears⟩
              · cases clears
          | _ => cases clears
      | finish request reply =>
          cases request with
          | sweep request =>
              cases request
              · exact ⟨_, List.mem_singleton_self _, clears⟩
              · cases clears
          | _ => cases clears
  | @list task _ keys follows complete =>
      cases task with
      | sweep task =>
          cases task <;> cases follows
          exact ⟨_, List.mem_singleton_self _, complete identifier clears⟩
      | _ => cases follows

/-- What is newly registered is going to be cleared, if the connection was closed meanwhile. -/
theorem registered_of_exchange {later : ConnectionId → Prop} {identifier : ConnectionId}
    (exchange : WatchedExchange (component Callback Session) (listing Callback Session) connection
      lasting move taken next put) (here : identifier ∈ next.registry.identifiers) :
    identifier ∈ connection.registry.identifiers ∨
      ∃ following ∈ put, Clears later identifier following := by
  cases exchange with
  | plain exchange =>
      cases exchange with
      | work task _ =>
          have kept {other : ConnectionId}
              (left : identifier ∈ (connection.registry.erase other).identifiers) :
              identifier ∈ connection.registry.identifiers := by
            rw [identifiers_erase] at left
            exact List.mem_of_mem_filter left
          change identifier ∈ (step connection task).1.registry.identifiers at here
          cases task with
          | register session other buffer =>
              simp only [step] at here
              rcases inserted : connection.registry.insert? other session with _ | extended
              · rw [inserted] at here
                exact .inl here
              · rw [inserted] at here
                simp only [identifiers, entries_of_insert? inserted, List.map_append, List.map_cons,
                  List.map_nil, List.mem_append, List.mem_singleton] at here
                refine here.imp_right fun same => ?_
                simp only [component, step, inserted]
                exact ⟨_, List.mem_singleton_self _, same.symm⟩
          | sweep task =>
              rcases task with _ | ⟨_ | ⟨other, left⟩, count, purpose⟩
              · exact .inl here
              · exact .inl here
              · simp only [step, sweepStep_next] at here
                exact .inl (kept here)
          | unregister other => exact .inl (kept (registry_step_unregister connection other ▸ here))
          | withdraw other buffer =>
              exact .inl (kept (registry_step_withdraw connection other buffer ▸ here))
          | react | shut | identify | route | vet | confirm =>
              simp only [step] at here
              split at here <;> exact .inl here
          | _ => exact .inl here
      | «begin» request => exact .inl here
      | finish request reply => exact .inl here
      | enter method => exact .inl here
  | list keys follows complete => exact .inl here

/-- When the closing flag is raised, the identifiers are going to be listed. -/
theorem put_of_closing
    (exchange : WatchedExchange (component Callback Session) (listing Callback Session) connection
      lasting move taken next put) (alive : connection.closed = false) (closed : next.closed = true) :
    put = [.task (.sweep (.list .shutdown))] := by
  cases exchange with
  | plain exchange =>
      obtain rfl := moved_of_exchange exchange
      obtain rfl := eq_shut_of_moved alive closed
      cases exchange with
      | work => simp [component, step, alive]
  | list keys follows complete =>
      rw [alive] at closed
      cases closed

/-- Whether a thread is going to clear an identifier. -/
def Cleared (watched : ConnectionWatch Callback Session) (identifier : ConnectionId) : Prop :=
  ∃ thread stack frame, watched.threads.frames[thread]? = some stack ∧ frame ∈ stack ∧
    Clears (watched.lasting thread) identifier frame

/-- In a closed connection every registered identifier is going to be cleared. -/
def Guarded (watched : ConnectionWatch Callback Session) : Prop :=
  watched.threads.state.closed = true →
    ∀ identifier ∈ watched.threads.state.registry.identifiers, Cleared watched identifier

variable {watched after : ConnectionWatch Callback Session}

theorem Guarded.step {thread : Nat}
    (step : WatchedStep (component Callback Session) (listing Callback Session) watched thread move
      after) (guarded : Guarded watched) : Guarded after := by
  obtain ⟨taken, put, rest, found, moved, exchange⟩ := step.exchange
  have inBounds : thread < watched.threads.frames.length := (List.getElem?_eq_some_iff.1 found).1
  have there : after.threads.frames[thread]? = some (put ++ rest) := by
    rw [moved]
    exact List.getElem?_set_self inBounds
  intro closed identifier here
  have still (other : Nat) (before : watched.lasting other identifier) :
      after.lasting other identifier := by
    rw [moved]
    exact ⟨here, .inr before⟩
  have mine (following : ConnectionFrame Callback Session) (member : following ∈ put)
      (clears : Clears (after.lasting thread) identifier following) : Cleared after identifier :=
    ⟨thread, _, following, there, List.mem_append_left rest member, clears⟩
  cases raised : watched.threads.state.closed with
  | false =>
      -- The flag is raised in this move, and the thread is about to list the identifiers.
      rw [put_of_closing exchange raised closed] at mine
      refine mine _ (List.mem_singleton_self _) ?_
      rw [moved]
      exact ⟨here, .inl rfl⟩
  | true =>
      rcases registered_of_exchange exchange here with before | ⟨following, member, clears⟩
      · obtain ⟨other, stack, frame, position, member, clears⟩ := guarded raised identifier before
        by_cases same : thread = other
        · subst same
          obtain rfl : stack = taken ++ rest := Option.some.inj (position.symm.trans found)
          rcases List.mem_append.1 member with top | below
          · rcases exchange.taken_eq with rfl | ⟨only, rfl⟩
            · cases top
            · obtain rfl := List.mem_singleton.1 top
              obtain ⟨following, member, clears⟩ := clears.exchange exchange raised here
              exact mine following member clears
          · exact ⟨thread, _, frame, there, List.mem_append_right put below, clears.mono (still thread)⟩
        · have unchanged : after.threads.frames[other]? = some stack := by
            rw [moved]
            exact (List.getElem?_set_ne same).trans position
          exact ⟨other, stack, frame, unchanged, member, clears.mono (still other)⟩
      · exact mine following member clears

/-! ## The end of it all -/

def calls : ConnectionMove Callback Session → Bool
  | .enter .close => true
  | _ => false

/-- Whether a frame is going to raise the closing flag. -/
def closing : ConnectionFrame Callback Session → Bool
  | .task (.hold .close) | .task .shut => true
  | _ => false

/-- A call of closing the connection raises the flag, if it has not been raised before. -/
theorem closing_of_exchange {frame : ConnectionFrame Callback Session}
    (exchange : WatchedExchange (component Callback Session) (listing Callback Session) connection
      lasting move [frame] next put) (begun : closing frame = true) :
    next.closed = true ∨ ∃ following ∈ put, closing following = true := by
  unfold closing at begun
  split at begun
  · obtain ⟨⟨_, _⟩⟩ | ⟨_, follows, _⟩ := exchange
    · exact .inr ⟨_, List.mem_cons_self, rfl⟩
    · cases follows
  · obtain ⟨⟨_, _⟩⟩ | ⟨_, follows, _⟩ := exchange
    · exact .inl (closed_moved_shut connection)
    · cases follows
  · cases begun

theorem closed_of_exchange
    (exchange : WatchedExchange (component Callback Session) (listing Callback Session) connection
      lasting move taken next put) (closed : connection.closed = true) : next.closed = true := by
  cases exchange with
  | plain exchange => exact moved_of_exchange exchange ▸ closed_moved closed move
  | list keys follows complete => exact closed

/-- Once somebody has called for it, the connection is closed or going to be. -/
theorem closing_of_run {first last : ConnectionWatch Callback Session}
    {moves : List (Nat × ConnectionMove Callback Session)}
    (run : WatchedRun (component Callback Session) (listing Callback Session) first moves last)
    (called : (moves.map Prod.snd).any calls = true) :
    last.threads.state.closed = true ∨ ∃ frame ∈ last.threads.gathered, closing frame = true := by
  refine run.invariant_of_exchange (fun moves connection frames => moves.any calls = true →
    connection.closed = true ∨ ∃ frame ∈ frames, closing frame = true) ?_ nofun called
  intro moves connection lasting move taken next put rest exchange before called
  simp only [Multiset.mem_add, Multiset.mem_coe] at before ⊢
  rw [List.any_append, Bool.or_eq_true] at called
  rcases called with earlier | now
  · rcases before earlier with closed | ⟨frame, top | below, begun⟩
    · exact .inl (closed_of_exchange exchange closed)
    · rcases exchange.taken_eq with rfl | ⟨only, rfl⟩
      · cases top
      · obtain rfl := List.mem_singleton.1 top
        refine (closing_of_exchange exchange begun).imp_right ?_
        rintro ⟨following, member, begun⟩
        exact ⟨following, .inl member, begun⟩
    · exact .inr ⟨frame, .inr below, begun⟩
  · rw [List.any_cons, List.any_nil, Bool.or_false] at now
    unfold calls at now
    split at now
    · obtain ⟨⟨_, _⟩⟩ := exchange
      exact .inr ⟨_, .inl (List.mem_singleton_self _), rfl⟩
    · cases now

variable [DecidableEq Session]

/--
However threads that read and create sessions are interleaved with threads that close the connection,
and even if the identifiers are listed while others register: when all have returned, no session is
registered any more, and each session that the factory made has been closed once.
-/
theorem no_session_survives_shutdown {config : Config} {first : Connection Callback Session}
    {count : Nat} {moves : List (Nat × ConnectionMove Callback Session)}
    {last : ConnectionWatch Callback Session} (opened : Connection.new config = .ok first)
    (run : WatchedRun (component Callback Session) (listing Callback Session)
      (.start (listing Callback Session) ⟨first, List.replicate count []⟩) moves last)
    (quiet : last.threads.Quiet)
    (stay : (moves.map Prod.snd).any departs = false)
    (called : (moves.map Prod.snd).any calls = true)
    (fresh : ((moves.map Prod.snd).filterMap born).Nodup) :
    last.threads.state.registry.entries = [] ∧
      ∀ session ∈ (moves.map Prod.snd).filterMap born,
        (moves.map Prod.snd).countP (closes session) = 1 := by
  have nothing := gathered_of_quiet quiet
  have closed : last.threads.state.closed = true := by
    refine (closing_of_run run called).resolve_right ?_
    rw [nothing]
    rintro ⟨frame, member, -⟩
    exact Multiset.notMem_zero frame member
  have guarded : Guarded last := by
    refine run.invariant (fun _ => Guarded) (fun _ step => Guarded.step step) fun raised => ?_
    rw [Watched.start, new_eq opened] at raised
    cases raised
  have vacant : last.threads.state.registry.entries = [] := by
    refine List.eq_nil_iff_forall_not_mem.2 fun entry member => ?_
    obtain ⟨thread, stack, frame, found, inStack, -⟩ :=
      guarded closed entry.1 (List.mem_map_of_mem member)
    rw [quiet stack (List.mem_of_getElem? found)] at inStack
    cases inStack
  refine ⟨vacant, fun session member => ?_⟩
  have whole := (accounted_of_run opened (fun stack member => List.eq_of_mem_replicate member) run
    stay).whole session
  rw [nothing, charged_zero, sessions, vacant, List.map_nil, List.count_nil,
    List.count_eq_one_of_mem fresh member] at whole
  omega

/-- Surroundings that create the session `2`. -/
def others : (request : Request Nat Nat) → Reply request
  | .create _ _ => .ok (some 2)
  | request => answers .closed request

def turn (thread : Nat) (choices : List (Choice (Request Nat Nat) (Method Nat) Reply)) :
    List (Nat × Choice (Request Nat Nat) (Method Nat) Reply) :=
  choices.map fun choice => (thread, choice)

/-- A datagram is read, and a session is created for it that is about to be registered. -/
def admission (creating : (request : Request Nat Nat) → Reply request) :
    List (Choice (Request Nat Nat) (Method Nat) Reply) :=
  List.flatten
    [[.enter .fillable], List.replicate 3 .proceed, [.finish creating, .proceed],
      [.finish (answers (.datagram 17 default))], List.replicate 5 .proceed,
      [.finish creating, .proceed, .finish creating, .proceed]]

def departure : List (Choice (Request Nat Nat) (Method Nat) Reply) :=
  [.proceed, .finish (answers .closed), .proceed, .finish others, .proceed, .finish others, .proceed]

/--
Two threads have each created a session for the same identifier when a third one closes the
connection; only then do they try to register them.
-/
def lateRegistrations : List (Nat × Choice (Request Nat Nat) (Method Nat) Reply) :=
  List.flatten
    [turn 0 (admission (answers .empty)), turn 1 (admission others),
      turn 2 (.enter .close :: List.replicate 9 .proceed ++ [.finish others, .proceed]),
      turn 0 (List.replicate 2 .proceed), turn 1 (List.replicate 3 .proceed),
      turn 0 (List.replicate 2 .proceed), turn 0 (.finish others :: departure),
      turn 1 (.finish others :: departure)]

theorem closed_once_after_lateRegistrations :
    let trace := ThreadTrace.follow (component Nat Nat) ⟨{}, List.replicate 3 []⟩ lateRegistrations
    trace.threads.Quiet ∧ (trace.moves.map Prod.snd).filterMap born = [1, 2] ∧
      trace.threads.state.registry.entries = [] ∧
        ∀ session ∈ [1, 2], (trace.moves.map Prod.snd).countP (closes session) = 1 := by
  intro trace
  have opened : Connection.new {} = .ok ({} : Connection Nat Nat) := rfl
  have empty : ∀ stack ∈ trace.threads.frames, stack.isEmpty = true := by decide +kernel
  have quiet : trace.threads.Quiet := fun stack member => List.isEmpty_iff.1 (empty stack member)
  have created : (trace.moves.map Prod.snd).filterMap born = [1, 2] := by decide +kernel
  have fresh : ((trace.moves.map Prod.snd).filterMap born).Nodup := by decide +kernel
  have run : ThreadRun (component Nat Nat) ⟨{}, List.replicate 3 []⟩ trace.moves trace.threads :=
    ThreadTrace.run_follow (component Nat Nat) _ lateRegistrations
  have stay : (trace.moves.map Prod.snd).any departs = false := by decide +kernel
  have called : (trace.moves.map Prod.snd).any calls = true := by decide +kernel
  clear_value trace
  obtain ⟨lasting, run⟩ := ThreadRun.exists_watched (listing Nat Nat)
    (.start (listing Nat Nat) ⟨{}, List.replicate 3 []⟩) run
  obtain ⟨vacant, once⟩ := no_session_survives_shutdown opened run quiet stay called fresh
  exact ⟨quiet, created, vacant, created ▸ once⟩

end DatagramMux.Connection
