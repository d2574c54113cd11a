import DatagramMux.Echo.Host
import DatagramMux.Proofs.Machine.Exchange
import DatagramMux.Proofs.Machine.Projection

/-!
# Echo sessions, whatever hosts them

Two things are true of echo sessions no matter what hosts them. Their host goes through a run of its
own, in which a session that is in the middle of something is a call that is under way, and the only
methods that are entered besides those of the whole submit what the sessions send. And however often
a session is closed, and by however many threads, it gives its place back once.
-/

namespace DatagramMux.Echo

open Component

variable {State Task Method Callback : Type}
variable {inner : Component State Task (Connection.Request Callback Nat) Method Connection.Reply}
variable {send : WriteEntry Callback → Method} {silent : Callback}

/-- What may happen to a host of echo sessions. -/
abbrev HostMove (Task Method Callback : Type) :=
  Move (HostTask Task Callback) (Connection.Request Callback Nat) Method Connection.Reply

def Lives (echo : Echo) (number : Nat) : Prop :=
  ∃ session, echo.sessions[number]? = some session ∧ session.closed = false

/-! ## What a move can be -/

section Moves

variable (inner : Component State Task (Connection.Request Callback Nat) Method Connection.Reply)
variable (send : WriteEntry Callback → Method) (silent : Callback)

/-- How the host goes on when a session, or the factory, has met a request. -/
def told (request : Connection.Request Callback Nat) (reply : Connection.Reply request) :
    List (HostFrame Task Callback) :=
  (inner.resume request reply).map liftHost

/-- A session sends a datagram back, and a step of its own follows. -/
def sent (arrival : Connection.Arrival) (following : HostTask Task Callback) :
    List (HostFrame Task Callback) :=
  (inner.body (send ⟨silent, arrival.remote, [arrival.datagram]⟩)).map liftHost ++
    [.task following]

/-- A move with the frames that it takes away and those that it puts there instead, by cases. -/
inductive HostExchange (state : State × Echo) :
    HostMove Task Method Callback → List (HostFrame Task Callback) →
      State × Echo → List (HostFrame Task Callback) → Prop where
  | inner (task : Task) : inner.blocked state.1 task = false →
      HostExchange state (.work (.inner task)) [.task (.inner task)]
        ((inner.step state.1 task).1, state.2) ((inner.step state.1 task).2.map liftHost)
  /-- The datagram opens no session, or there are enough of them. -/
  | decline (arrival : Connection.Arrival) (identifier : ConnectionId) (rejected : Nat) :
      HostExchange state (.work (.creating arrival identifier .consider))
        [.task (.creating arrival identifier .consider)]
        (state.1, { state.2 with rejected := rejected })
        (told inner (.create arrival identifier) (.ok none))
  | welcome (arrival : Connection.Arrival) (identifier : ConnectionId) :
      state.2.active < state.2.limit →
        HostExchange state (.work (.creating arrival identifier .consider))
          [.task (.creating arrival identifier .consider)] state
          [.task (.creating arrival identifier .occupy)]
  | occupy (arrival : Connection.Arrival) (identifier : ConnectionId) :
      HostExchange state (.work (.creating arrival identifier .occupy))
        [.task (.creating arrival identifier .occupy)]
        (state.1, { state.2 with active := state.2.active + 1, opened := state.2.opened + 1 })
        (sent inner send silent arrival (.creating arrival identifier .make))
  | make (arrival : Connection.Arrival) (identifier : ConnectionId) :
      HostExchange state (.work (.creating arrival identifier .make))
        [.task (.creating arrival identifier .make)]
        (state.1, { state.2 with sessions := state.2.sessions ++ [{ remote := arrival.remote }] })
        (told inner (.create arrival identifier) (.ok (some state.2.sessions.length)))
  | assign (number : Nat) (identifier : ConnectionId) (buffer : Buffer) :
      HostExchange state (.work (.assigning number identifier buffer))
        [.task (.assigning number identifier buffer)] (state.1, state.2.assign number identifier)
        (told inner (.assign number identifier buffer) ())
  /-- A session that was closed processes nothing. -/
  | refuse (number : Nat) (arrival : Connection.Arrival) (identifier : ConnectionId) :
      HostExchange state (.work (.processing number arrival identifier .consult))
        [.task (.processing number arrival identifier .consult)] state
        (told inner (.process number arrival identifier) (.error (.session "session closed")))
  | consult (number : Nat) (arrival : Connection.Arrival) (identifier : ConnectionId) :
      HostExchange state (.work (.processing number arrival identifier .consult))
        [.task (.processing number arrival identifier .consult)] state
        (sent inner send silent arrival (.processing number arrival identifier .count))
  | count (number : Nat) (arrival : Connection.Arrival) (identifier : ConnectionId) :
      HostExchange state (.work (.processing number arrival identifier .count))
        [.task (.processing number arrival identifier .count)]
        (state.1, state.2.modifySession number fun session =>
          { session with echoed := session.echoed + 1 })
        (told inner (.process number arrival identifier) (.ok arrival.datagram.length))
  | shut (number : Nat) (request : Connection.Request Callback Nat)
      (reply : Connection.Reply request) : Lives state.2 number →
        HostExchange state (.work (.closing number .shut request reply))
          [.task (.closing number .shut request reply)]
          (state.1, state.2.modifySession number fun session => { session with closed := true })
          [.task (.closing number .vacate request reply)]
  /-- There is nothing to close, or nothing any more. -/
  | late (number : Nat) (request : Connection.Request Callback Nat)
      (reply : Connection.Reply request) : ¬ Lives state.2 number →
        HostExchange state (.work (.closing number .shut request reply))
          [.task (.closing number .shut request reply)] state (told inner request reply)
  | vacate (number : Nat) (request : Connection.Request Callback Nat)
      (reply : Connection.Reply request) :
      HostExchange state (.work (.closing number .vacate request reply))
        [.task (.closing number .vacate request reply)]
        (state.1, { state.2 with active := state.2.active - 1 })
        [.task (.closing number .conclude request reply)]
  | conclude (number : Nat) (request : Connection.Request Callback Nat)
      (reply : Connection.Reply request) (ended : List (ConnectionId × UInt64)) :
      HostExchange state (.work (.closing number .conclude request reply))
        [.task (.closing number .conclude request reply)]
        (state.1, { state.2 with ended := ended }) (told inner request reply)
  | begin (request : Connection.Request Callback Nat) :
      HostExchange state (.begin request) [.call request] state [.inside request]
  | finish (request : Connection.Request Callback Nat) (reply : Connection.Reply request) :
      HostExchange state (.finish request reply) [.inside request] state (told inner request reply)
  | enter (method : Method) :
      HostExchange state (.enter method) [] state ((inner.body method).map liftHost)

end Moves

theorem lives_iff_all {echo : Echo} {number : Nat} :
    Lives echo number ↔ echo.sessions[number]?.all (·.closed) = false := by
  rw [Lives]
  cases echo.sessions[number]? <;> simp

section Exchange

variable {state next : State × Echo} {move : HostMove Task Method Callback}
variable {taken put : List (HostFrame Task Callback)}

theorem hostExchange_of_exchange
    (exchange : Exchange (host inner send silent) state move taken next put) :
    HostExchange inner send silent state move taken next put := by
  obtain ⟨hosting, echo⟩ := state
  cases exchange with
  | work task free =>
      cases task with
      | inner task => exact .inner task free
      | creating arrival identifier point =>
          cases point with
          | consider =>
              simp only [host, createStep]
              split
              · split
                · exact .decline arrival identifier (echo.rejected + 1)
                · next room => exact .welcome arrival identifier (UInt64.not_le.1 room)
              · exact .decline arrival identifier echo.rejected
          | occupy => exact .occupy arrival identifier
          | make => exact .make arrival identifier
      | assigning number identifier buffer => exact .assign number identifier buffer
      | processing number arrival identifier point =>
          cases point with
          | consult =>
              simp only [host, processStep]
              split
              · exact .refuse number arrival identifier
              · exact .consult number arrival identifier
          | count => exact .count number arrival identifier
      | closing number point request reply =>
          cases point with
          | shut =>
              simp only [host, closeStep]
              split
              · next dead =>
                exact .late number request reply (by simp [lives_iff_all, dead])
              · next alive =>
                exact .shut number request reply (lives_iff_all.2 (Bool.eq_false_iff.2 alive))
          | vacate => exact .vacate number request reply
          | conclude =>
              simp only [host, closeStep]
              split
              · exact .conclude number request reply _
              · exact .conclude number request reply echo.ended
  | «begin» request => exact .begin request
  | finish request reply => exact .finish request reply
  | enter method => exact .enter method

end Exchange

/-! ## The run of the host -/

/-- The frame of the host that a frame stands for. -/
def shown : HostFrame Task Callback → Frame Task (Connection.Request Callback Nat)
  | .task (.inner task) => .task task
  | .task (.creating arrival identifier .consider) => .call (.create arrival identifier)
  | .task (.creating arrival identifier _) => .inside (.create arrival identifier)
  | .task (.assigning number identifier buffer) => .call (.assign number identifier buffer)
  | .task (.processing number arrival identifier .consult) =>
      .call (.process number arrival identifier)
  | .task (.processing number arrival identifier .count) =>
      .inside (.process number arrival identifier)
  | .task (.closing _ .shut request _) => .call request
  | .task (.closing _ _ request _) => .inside request
  | .call request => .call request
  | .inside request => .inside request

theorem shown_liftHost (frame : Frame Task (Connection.Request Callback Nat)) :
    shown (liftHost frame) = frame := by
  fun_cases liftHost frame <;> rfl

@[simp]
theorem map_shown_liftHost (frames : List (Frame Task (Connection.Request Callback Nat))) :
    (frames.map liftHost).map shown = frames := by
  induction frames with
  | nil => rfl
  | cons frame rest ih => rw [List.map_cons, List.map_cons, shown_liftHost, ih]

theorem isInside_shown {frame : HostFrame Task Callback} (under : frame.isInside = true) :
    (shown frame).isInside = true := by
  cases frame with
  | inside request => rfl
  | task | call => cases under

theorem enterable_shown {stack : List (HostFrame Task Callback)} (enterable : Enterable stack) :
    Enterable (stack.map shown) := by
  rcases stack with - | ⟨frame, rest⟩
  · exact enterable_nil
  · rintro _ ⟨⟩
    exact isInside_shown (enterable frame rfl)

section Request

variable (inner : Component State Task (Connection.Request Callback Nat) Method Connection.Reply)
variable (state : State) (request : Connection.Request Callback Nat)
variable (rest : List (Frame Task (Connection.Request Callback Nat)))

theorem run_told (reply : Connection.Reply request) :
    Run inner state (.inside request :: rest) [.finish request reply] state
      ((told inner request reply).map shown ++ rest) := by
  rw [told, map_shown_liftHost]
  exact run_finish inner state request reply

/-- A request that is met at once. -/
theorem run_request (reply : Connection.Reply request) :
    Run inner state (.call request :: rest) [.begin request, .finish request reply] state
      ((told inner request reply).map shown ++ rest) :=
  (run_begin inner state request).append (run_told inner state request rest reply)

/-- A write that is submitted while a request is met. -/
theorem run_sent (send : WriteEntry Callback → Method) (silent : Callback)
    (arrival : Connection.Arrival) {following : HostTask Task Callback}
    (within : shown (.task following) = .inside request) :
    Run inner state (.inside request :: rest)
      [.enter (send ⟨silent, arrival.remote, [arrival.datagram]⟩)] state
      ((sent inner send silent arrival following).map shown ++ rest) := by
  rw [sent, List.map_append, map_shown_liftHost, List.map_singleton, within, List.append_assoc]
  exact run_enter inner state _ fun _ top => Option.some.inj top ▸ rfl

end Request

/-- Whether all that is entered in some moves of the host is entered in the whole, or sent. -/
def Arises (send : WriteEntry Callback → Method) (moves : List (HostMove Task Method Callback))
    (seen : List (Move Task (Connection.Request Callback Nat) Method Connection.Reply)) : Prop :=
  ∀ method, .enter method ∈ seen → .enter method ∈ moves ∨ ∃ entry, method = send entry

section Projection

variable {state next : State × Echo} {move : HostMove Task Method Callback}
variable {taken put stack nextStack : List (HostFrame Task Callback)}
variable {moves : List (HostMove Task Method Callback)}

/-- A move is none, one or two moves of the host. -/
theorem exists_run_of_exchange
    (exchange : HostExchange inner send silent state move taken next put)
    (rest : List (Frame Task (Connection.Request Callback Nat)))
    (enterable : ∀ method, move = .enter method → Enterable rest) :
    ∃ seen, Run inner state.1 (taken.map shown ++ rest) seen next.1 (put.map shown ++ rest) ∧
      Arises send [move] seen := by
  cases exchange with
  | inner task free =>
      rw [map_shown_liftHost]
      exact ⟨_, run_work inner state.1 task free, by simp [Arises]⟩
  | decline | assign | refuse | late =>
      exact ⟨_, run_request inner state.1 _ rest _, by simp [Arises]⟩
  | make | count | conclude | finish => exact ⟨_, run_told inner state.1 _ rest _, by simp [Arises]⟩
  | welcome | shut | «begin» => exact ⟨_, run_begin inner state.1 _, by simp [Arises]⟩
  | vacate => exact ⟨[], .refl _ _, by simp [Arises]⟩
  | occupy arrival identifier =>
      exact ⟨_, run_sent inner state.1 _ rest send silent arrival rfl, by simp [Arises]⟩
  | consult number arrival identifier =>
      have asked : Run inner state.1 (.call (.process number arrival identifier) :: rest) _ _ _ :=
        run_begin inner state.1 _
      exact ⟨_, asked.append (run_sent inner state.1 _ rest send silent arrival rfl),
        by simp [Arises]⟩
  | enter method =>
      rw [map_shown_liftHost]
      exact ⟨_, run_enter inner state.1 method (enterable method rfl), by simp [Arises]⟩

theorem Arises.append {further : List (HostMove Task Method Callback)}
    {seen seenToo : List (Move Task (Connection.Request Callback Nat) Method Connection.Reply)}
    (arises : Arises send moves seen) (arisesToo : Arises send further seenToo) :
    Arises send (moves ++ further) (seen ++ seenToo) := by
  intro method member
  rcases List.mem_append.1 member with earlier | later
  · exact (arises method earlier).imp_left fun member => List.mem_append_left _ member
  · exact (arisesToo method later).imp_left fun member => List.mem_append_right _ member

theorem exists_run_of_step (step : Step (host inner send silent) state stack move next nextStack) :
    ∃ seen, Run inner state.1 (stack.map shown) seen next.1 (nextStack.map shown) ∧
      Arises send [move] seen := by
  obtain ⟨taken, put, rest, rfl, rfl, exchange⟩ := step.exchange
  rw [List.map_append, List.map_append]
  refine exists_run_of_exchange (hostExchange_of_exchange exchange) (rest.map shown) ?_
  rintro method rfl
  cases exchange
  cases step with
  | enter _ _ free => exact enterable_shown free

/-- The host of echo sessions goes through a run of its own. -/
theorem exists_run_of_hosted
    (run : Run (host inner send silent) state stack moves next nextStack) :
    ∃ seen, Run inner state.1 (stack.map shown) seen next.1 (nextStack.map shown) ∧
      Arises send moves seen := by
  induction run with
  | refl => exact ⟨[], .refl _ _, by simp [Arises]⟩
  | tail _ step ih =>
      obtain ⟨seen, before, arises⟩ := ih
      obtain ⟨further, onward, arisesToo⟩ := exists_run_of_step step
      exact ⟨seen ++ further, before.append onward, arises.append arisesToo⟩

end Projection

/-! ## Closing a session again and again -/

/-- Whether a session was closed. -/
def isShut (echo : Echo) (number : Nat) : Bool := echo.sessions[number]?.any (·.closed)

/-- Whether a move takes a place among the active sessions. -/
def occupies : HostMove Task Method Callback → Bool
  | .work (.creating _ _ .occupy) => true
  | _ => false

/-- Whether a move is the first step of closing a session. -/
def shuts (number : Nat) : HostMove Task Method Callback → Bool
  | .work (.closing closing .shut _ _) => closing = number
  | _ => false

/-- The session whose place a move gives back. -/
def vacated? : HostMove Task Method Callback → Option Nat
  | .work (.closing number .vacate _ _) => some number
  | _ => none

/-- One for a frame that is going to give the place of a session back. -/
def vacating (number : Nat) : HostFrame Task Callback → Nat
  | .task (.closing closing .vacate _ _) => if closing = number then 1 else 0
  | _ => 0

theorem lives_iff {echo : Echo} {number : Nat} :
    Lives echo number ↔ number < echo.sessions.length ∧ echo.isShut number = false := by
  rw [Lives, isShut]
  rcases found : echo.sessions[number]? with - | session
  · simp [List.getElem?_eq_none_iff.1 found]
  · simp [(List.getElem?_eq_some_iff.1 found).1]

theorem isShut_modifySession (echo : Echo) {change : Session → Session} (number other : Nat)
    (kept : ∀ session, (change session).closed = session.closed) :
    (echo.modifySession number change).isShut other = echo.isShut other := by
  simp only [isShut, modifySession, List.getElem?_modify]
  cases echo.sessions[other]? with
  | none => rfl
  | some session => by_cases same : number = other <;> simp [same, kept]

theorem isShut_append (echo : Echo) {session : Session} (opened : session.closed = false)
    (number : Nat) :
    ({ echo with sessions := echo.sessions ++ [session] } : Echo).isShut number =
      echo.isShut number := by
  simp only [isShut, List.getElem?_append]
  split
  · rfl
  · next beyond =>
    rw [List.getElem?_eq_none (Nat.not_lt.1 beyond)]
    by_cases last : number - echo.sessions.length = 0
    · simp [last, opened]
    · simp [last]

theorem isShut_close {echo : Echo} {closing : Nat} (lives : Lives echo closing) (number : Nat) :
    (echo.modifySession closing fun session => { session with closed := true }).isShut number =
      (echo.isShut number || (closing = number && number < echo.sessions.length)) := by
  simp only [isShut, modifySession, List.getElem?_modify]
  by_cases same : closing = number
  · simp [same, (lives_iff.1 (same ▸ lives)).1]
  · simp [same]

/-- A session that is not open is as closed as it can be. -/
theorem isShut_of_not_lives {echo : Echo} {closing : Nat} (dead : ¬ Lives echo closing)
    (number : Nat) :
    echo.isShut number =
      (echo.isShut number || (closing = number && number < echo.sessions.length)) := by
  by_cases same : closing = number
  · subst same
    have known : closing < echo.sessions.length → echo.isShut closing = true := by
      simpa [lives_iff] using dead
    cases shut : echo.isShut closing <;> simp_all
  · simp [same]

/-- What a move does to the sessions and to the counter. -/
structure Effect (echo : Echo) (move : HostMove Task Method Callback) (later : Echo) : Prop where
  known : echo.sessions.length ≤ later.sessions.length
  /-- A session is closed if it was before, or if it has just been asked to close. -/
  shut (number : Nat) : later.isShut number =
    (echo.isShut number || (shuts number move && number < echo.sessions.length))
  /-- The counter goes up for a place that is taken, and down for one that is given back. -/
  active : later.active + .ofNat (vacated? move).toList.length =
    echo.active + .ofNat ([move].countP occupies)
  limit : later.limit = echo.limit

/-- Most moves neither close a session nor touch the counter. -/
theorem Effect.aside {echo later : Echo} {move : HostMove Task Method Callback}
    (still : ∀ number, shuts number move = false) (keeps : vacated? move = none)
    (takes : occupies move = false) (known : echo.sessions.length ≤ later.sessions.length)
    (shut : ∀ number, later.isShut number = echo.isShut number)
    (active : later.active = echo.active) (limit : later.limit = echo.limit) :
    Effect echo move later where
  known := known
  shut number := by rw [shut, still, Bool.false_and, Bool.or_false]
  active := by simp [keeps, takes, active]
  limit := limit

section Exchange

variable {state next : State × Echo} {move : HostMove Task Method Callback}
variable {taken put : List (HostFrame Task Callback)}

theorem effect_of_exchange
    (exchange : HostExchange inner send silent state move taken next put) :
    Effect state.2 move next.2 := by
  cases exchange with
  | inner | decline | welcome | refuse | consult | conclude | «begin» | finish | enter =>
      exact .aside (fun _ => rfl) rfl rfl (le_refl _) (fun _ => rfl) rfl rfl
  | occupy arrival identifier =>
      exact ⟨le_refl _, fun number => by simp [isShut, shuts], by simp [vacated?, occupies], rfl⟩
  | make arrival identifier =>
      exact .aside (fun _ => rfl) rfl rfl (by simp) (isShut_append state.2 rfl) rfl rfl
  | assign number identifier buffer =>
      exact .aside (fun _ => rfl) rfl rfl (by simp [assign, modifySession])
        (fun other => isShut_modifySession state.2 number other fun session => by rfl) rfl rfl
  | count number arrival identifier =>
      exact .aside (fun _ => rfl) rfl rfl (by simp [modifySession])
        (fun other => isShut_modifySession state.2 number other fun session => by rfl) rfl rfl
  | shut number request reply lives =>
      exact ⟨by simp [modifySession], isShut_close lives, rfl, rfl⟩
  | late number request reply dead =>
      exact ⟨le_refl _, isShut_of_not_lives dead, rfl, rfl⟩
  | vacate number request reply =>
      exact ⟨le_refl _, fun other => by simp [isShut, shuts], by simp [vacated?, occupies], rfl⟩

theorem Effect.lives {echo later : Echo} (effect : Effect echo move later) {number : Nat}
    (lives : Lives echo number) (others : shuts number move = false) : Lives later number := by
  obtain ⟨known, opened⟩ := lives_iff.1 lives
  refine lives_iff.2 ⟨known.trans_le effect.known, ?_⟩
  rw [effect.shut, opened, others, Bool.false_and, Bool.or_self]

theorem vacating_liftHost (number : Nat) (frame : Frame Task (Connection.Request Callback Nat)) :
    vacating number (liftHost frame) = 0 := by
  fun_cases liftHost frame <;> rfl

@[simp]
theorem sum_vacating_liftHost (number : Nat)
    (frames : List (Frame Task (Connection.Request Callback Nat))) :
    ((frames.map liftHost).map (vacating number)).sum = 0 := by
  simp [Function.comp_def, vacating_liftHost]

@[simp]
theorem sum_vacating_told (number : Nat) (request : Connection.Request Callback Nat)
    (reply : Connection.Reply request) :
    ((told inner request reply).map (vacating number)).sum = 0 :=
  sum_vacating_liftHost number _

@[simp]
theorem sum_vacating_sent (number : Nat) (arrival : Connection.Arrival)
    (following : HostTask Task Callback) :
    ((sent inner send silent arrival following).map (vacating number)).sum =
      vacating number (.task following : HostFrame Task Callback) := by
  rw [sent, List.map_append, List.sum_append, sum_vacating_liftHost, zero_add, List.map_singleton,
    List.sum_singleton]

/-- Only the step that closes a session leads to giving its place back. -/
theorem vacating_exchange
    (exchange : HostExchange inner send silent state move taken next put) (number : Nat) :
    (vacated? move).toList.count number + (put.map (vacating number)).sum +
        (state.2.isShut number).toNat =
      (taken.map (vacating number)).sum + (next.2.isShut number).toNat := by
  rw [(effect_of_exchange exchange).shut]
  cases exchange with
  | inner | enter =>
      rw [sum_vacating_liftHost]
      simp [vacated?, vacating, shuts]
  | welcome | vacate | «begin» => simp [vacated?, vacating, shuts, List.count_singleton]
  | occupy | consult =>
      rw [sum_vacating_sent]
      simp [vacated?, vacating, shuts]
  | shut closing request reply lives =>
      by_cases same : closing = number
      · subst same
        simp [vacated?, vacating, shuts, lives_iff.1 lives]
      · simp [vacated?, vacating, shuts, same]
  | late closing request reply dead =>
      rw [sum_vacating_told, shuts, ← isShut_of_not_lives dead]
      simp [vacated?, vacating]
  | conclude | finish => simp [vacated?, vacating, shuts]
  | decline | make | assign | refuse | count =>
      -- The type of the reply is only known by computation, so that no rewriting reaches the sum.
      simp [vacated?, vacating, shuts]
      exact sum_vacating_told number _ _

/-- What some moves have done to the active sessions, and what the frames are going to do. -/
structure Vacated (first : Echo) (moves : List (HostMove Task Method Callback))
    (state : State × Echo) (frames : Multiset (HostFrame Task Callback)) : Prop where
  known : first.sessions.length ≤ state.2.sessions.length
  /-- A session that was closed meanwhile has given its place back, or is going to. -/
  once (number : Nat) :
    (moves.filterMap vacated?).count number + total (vacating number) frames +
      (first.isShut number).toNat = (state.2.isShut number).toNat
  shut {number : Nat} : Lives first number → state.2.isShut number = moves.any (shuts number)
  active : state.2.active + .ofNat (moves.filterMap vacated?).length =
    first.active + .ofNat (moves.countP occupies)

theorem Vacated.exchange {first : Echo} {moves : List (HostMove Task Method Callback)}
    {rest : Multiset (HostFrame Task Callback)}
    (vacated : Vacated first moves state (↑taken + rest))
    (exchange : HostExchange inner send silent state move taken next put) :
    Vacated first (moves ++ [move]) next (↑put + rest) := by
  obtain ⟨known, once, shut, active⟩ := vacated
  have effect := effect_of_exchange exchange
  constructor
  · exact known.trans effect.known
  · intro number
    have once := once number
    have turn := vacating_exchange exchange number
    simp only [total_add, total_coe, List.filterMap_append, filterMap_singleton, List.count_append]
      at once ⊢
    omega
  · intro number lives
    have present : number < state.2.sessions.length := (lives_iff.1 lives).1.trans_le known
    rw [effect.shut, shut lives]
    simp [present]
  · have turn := effect.active
    simp only [List.filterMap_append, filterMap_singleton, List.length_append, List.countP_append,
      UInt64.ofNat_add]
    grind

end Exchange

section Run

variable {first : State × Echo} {count : Nat}
variable {turns : List (Nat × HostMove Task Method Callback)}
variable {last : Threads (State × Echo) (HostTask Task Callback) (Connection.Request Callback Nat)}

theorem vacated_of_threadRun
    (run : ThreadRun (host inner send silent) ⟨first, List.replicate count []⟩ turns last) :
    Vacated first.2 (turns.map Prod.snd) last.state last.gathered := by
  refine run.invariant_of_exchange (Vacated first.2) ?_ ?_
  · exact fun exchange before => before.exchange (hostExchange_of_exchange exchange)
  · rw [gathered_of_quiet fun stack member => List.eq_of_mem_replicate member]
    exact ⟨le_refl _, fun number => by simp, fun lives => (lives_iff.1 lives).2, rfl⟩

variable {moves : List (HostMove Task Method Callback)} {state : State × Echo}

/-- No session gives its place back twice. -/
theorem Vacated.nodup {echo : Echo} {frames : Multiset (HostFrame Task Callback)}
    (vacated : Vacated echo moves state frames) : (moves.filterMap vacated?).Nodup := by
  rw [List.nodup_iff_count_le_one]
  intro number
  have once := vacated.once number
  have flag := Bool.toNat_le (state.2.isShut number)
  omega

/-- When all is done, the sessions that have given their places back are those that were closed. -/
theorem Vacated.count_eq {echo : Echo}
    (vacated : Vacated echo moves state (0 : Multiset (HostFrame Task Callback))) {number : Nat}
    (lives : Lives echo number) :
    (moves.filterMap vacated?).count number = (moves.any (shuts number)).toNat := by
  have once := vacated.once number
  rw [total_zero, (lives_iff.1 lives).2, vacated.shut lives] at once
  simpa using once

end Run

end DatagramMux.Echo
