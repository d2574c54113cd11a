import DatagramMux.Proofs.Connection.Conservation
import DatagramMux.Proofs.Echo.Service

/-!
# The places of echo sessions

An echo session has a place among the active ones from the moment in which its factory begins to
create it until it is closed. In between it is with one frame of the thread that uses the
connection, or it is registered, but never both, so the counter of the factory tells how many
sessions are registered or on their way. All these sessions are open, which is why each of them
gives its place back when it is closed. Since nobody comes between the look at the counter and the
step that takes a place, the limit is never exceeded.
-/

namespace DatagramMux.Echo

open Component
open Connection (liftFlusher liftSweep refill)

variable {Callback : Type} {silent : Callback}

/-- A connection on its own that hosts echo sessions. -/
abbrev hosted (silent : Callback) :=
  host (Connection.component Callback Nat) Connection.Method.send silent

abbrev HostedFrame (Callback : Type) := HostFrame (Connection.Task Callback Nat) Callback

abbrev HostedMove (Callback : Type) :=
  HostMove (Connection.Task Callback Nat) (Connection.Method Callback) Callback

abbrev HostedExchange (silent : Callback) :=
  HostExchange (Connection.component Callback Nat) Connection.Method.send silent

/-! ## Who has a place -/

/-- The open session that a frame is about to register or to close. -/
def tenant : HostedFrame Callback → Multiset Nat
  | .task (.assigning number _ _) | .task (.inner (.vet number _ _))
  | .task (.inner (.register number _ _)) | .task (.inner (.countRefused number _))
  | .task (.closing number .shut _ _) => {number}
  | _ => 0

/-- One for a frame that has a place for a session that is not there yet or not open any more. -/
def place : HostedFrame Callback → Nat
  | .task (.creating _ _ .make) | .task (.closing _ .vacate _ _) => 1
  | _ => 0

/-- How many places a frame has. -/
def places (frame : HostedFrame Callback) : Nat := (tenant frame).card + place frame

/-- The open sessions that are registered or with a frame. -/
def tenants (registry : Registry Nat) (frames : Multiset (HostedFrame Callback)) : Multiset Nat :=
  ↑registry.sessions + total tenant frames

/-- Whether a frame is about to take a place. -/
def takes : HostedFrame Callback → Bool
  | .task (.creating _ _ .occupy) => true
  | _ => false

/-- Whether somebody takes out sessions that are registered: a single one, or all of them. -/
def removes : HostedMove Callback → Bool
  | .enter (.closeSession _) | .enter .closeSessions => true
  | _ => false

/-- Whether a request asks a session to close. -/
def closes : Connection.Request Callback Nat → Bool
  | .discard _ _ | .sweep (.close _ _ _ _) => true
  | _ => false

/-- Whether a request asks the factory or a session. -/
def serves : Connection.Request Callback Nat → Bool
  | .create _ _ | .assign _ _ _ | .process _ _ _ => true
  | request => closes request

/-- Whether a frame may occur as long as nobody takes out a single session. -/
def proper : HostedFrame Callback → Bool
  | .task (.inner (.hold (.closeSession _))) | .task (.inner (.unregister _)) => false
  | .task (.closing _ _ request _) => closes request
  | .call request | .inside request => !serves request
  | _ => true

/-! ## Frames of the connection -/

theorem nothing_liftFlusher (frame : Flusher.FlusherFrame Callback) :
    let lifted : HostedFrame Callback := liftHost (liftFlusher frame)
    tenant lifted = 0 ∧ proper lifted = true := by
  fun_cases liftFlusher frame <;> exact ⟨rfl, rfl⟩

theorem place_liftHost (frame : Connection.ConnectionFrame Callback Nat) :
    place (liftHost frame) = 0 := by
  fun_cases liftHost frame <;> rfl

theorem takes_liftHost (frame : Connection.ConnectionFrame Callback Nat) :
    takes (liftHost frame) = false := by
  fun_cases liftHost frame <;> rfl

@[simp]
theorem sum_place_liftHost (frames : List (Connection.ConnectionFrame Callback Nat)) :
    ((frames.map liftHost).map place).sum = 0 := by
  simp [Function.comp_def, place_liftHost]

@[simp]
theorem sum_tenant_liftFlusher (frames : List (Flusher.FlusherFrame Callback)) :
    (((frames.map liftFlusher).map liftHost : List (HostedFrame Callback)).map tenant).sum = 0 := by
  simp [Function.comp_def, nothing_liftFlusher]

/-- The session that is handed on when a request has been met. -/
def handed : (request : Connection.Request Callback Nat) → Connection.Reply request → Multiset Nat
  | .create _ _, .ok (some number) => {number}
  | .assign number _ _, () => {number}
  | _, _ => 0

theorem tenant_resumed (request : Connection.Request Callback Nat)
    (reply : Connection.Reply request) :
    (((Connection.resumed request reply).map liftHost).map tenant).sum = handed request reply := by
  fun_cases Connection.resumed request reply
  case case21 request =>
    cases request <;> rfl
  case case22 => exact sum_tenant_liftFlusher _
  all_goals rfl

theorem sessions_insert? {registry extended : Registry Nat} {identifier : ConnectionId}
    {session : Nat} (inserted : registry.insert? identifier session = some extended) :
    (↑extended.sessions : Multiset Nat) = ↑registry.sessions + {session} := by
  rw [Registry.sessions, Registry.entries_of_insert? inserted, List.map_append, ← Multiset.coe_add]
  rfl

theorem sessions_erase {registry : Registry Nat} {identifier : ConnectionId} {session : Nat}
    (found : registry.lookup? identifier = some session) :
    (↑registry.sessions : Multiset Nat) = ↑(registry.erase identifier).sessions + {session} := by
  have taken := (Registry.perm_erase (Registry.lookup?_eq_some_iff.1 found)).map Prod.snd
  rw [Registry.sessions, Multiset.coe_eq_coe.2 taken, List.map_cons, ← Multiset.cons_coe,
    ← Multiset.singleton_add, add_comm]
  rfl

/-- A step of the connection passes sessions on; none gets lost if none is taken out by itself. -/
theorem tenant_step (connection : Connection Callback Nat) (task : Connection.Task Callback Nat)
    (keeps : proper (.task (.inner task) : HostedFrame Callback) = true) :
    ↑(Connection.step connection task).1.registry.sessions +
        (((Connection.step connection task).2.map liftHost).map tenant).sum =
      ↑connection.registry.sessions + tenant (.task (.inner task) : HostedFrame Callback) := by
  cases task with
  | hold method => cases method <;> rfl
  | flusher task =>
      simp only [Connection.step, sum_tenant_liftFlusher]
      simp [tenant]
  | sweep task =>
      rcases task with purpose | ⟨_ | ⟨identifier, left⟩, closed, purpose⟩
      · cases purpose <;> rfl
      · cases purpose <;> rfl
      · simp only [Connection.step, Registry.sweepStep_next]
        rcases found : connection.registry.lookup? identifier with - | session
        · rw [Registry.erase_of_not_mem (Registry.lookup?_eq_none_iff.1 found)]
          simp [liftSweep, liftHost, tenant]
        · simp [sessions_erase found, liftSweep, liftHost, tenant]
  | unregister identifier => cases keeps
  | register session identifier buffer =>
      simp only [Connection.step]
      rcases inserted : connection.registry.insert? identifier session with - | extended
      · simp [liftHost, tenant]
      · simp [sessions_insert? inserted, liftHost, tenant]
  | withdraw identifier buffer =>
      simp only [Connection.step, Registry.remove]
      rcases found : connection.registry.lookup? identifier with - | session
      · simp [refill, liftHost, tenant]
      · simp [sessions_erase found, liftHost, tenant]
  | react | shut | identify | route | vet | confirm =>
      simp only [Connection.step]
      split <;> rfl
  | _ => rfl

theorem proper_step (connection : Connection Callback Nat) (task : Connection.Task Callback Nat)
    (keeps : proper (.task (.inner task) : HostedFrame Callback) = true) :
    ∀ frame ∈ (Connection.step connection task).2, proper (liftHost frame) = true := by
  cases task with
  | hold method =>
      refine List.forall_mem_cons.2 ⟨?_, List.forall_mem_singleton.2 rfl⟩
      cases method <;> first | rfl | cases keeps
  | flusher task =>
      exact List.forall_mem_map.2 fun frame _ => (nothing_liftFlusher frame).2
  | sweep task =>
      rcases task with purpose | ⟨_ | ⟨identifier, left⟩, closed, purpose⟩
      · exact List.forall_mem_singleton.2 rfl
      · cases purpose <;> exact List.forall_mem_singleton.2 rfl
      · simp only [Connection.step, Registry.sweepStep_next]
        split <;> exact List.forall_mem_singleton.2 rfl
  | unregister identifier => cases keeps
  | react =>
      simp only [Connection.step]
      split
      · exact List.forall_mem_nil _
      · exact List.forall_mem_cons.2 ⟨rfl, List.forall_mem_singleton.2 rfl⟩
  | shut =>
      simp only [Connection.step]
      split
      · exact List.forall_mem_nil _
      · exact List.forall_mem_singleton.2 rfl
  | countClosed closed => exact List.forall_mem_cons.2 ⟨rfl, List.forall_mem_singleton.2 rfl⟩
  | letGo | countUnregistered => exact List.forall_mem_nil _
  | identify | route | vet | register | withdraw | confirm =>
      simp only [Connection.step]
      split <;> exact List.forall_mem_singleton.2 rfl
  | _ => exact List.forall_mem_singleton.2 rfl

theorem proper_resumed (request : Connection.Request Callback Nat)
    (reply : Connection.Reply request) :
    ∀ frame ∈ Connection.resumed request reply, proper (liftHost frame) = true := by
  fun_cases Connection.resumed request reply
  case case21 request =>
    cases request with
    | close => exact List.forall_mem_singleton.2 rfl
    | report => exact List.forall_mem_nil _
  case case22 => exact List.forall_mem_map.2 fun frame _ => (nothing_liftFlusher frame).2
  all_goals first | exact List.forall_mem_singleton.2 rfl | exact List.forall_mem_nil _

/-! ## What a move does to the places -/

/-- What a move does to the open sessions and to the other places. -/
inductive Turnover (echo : Echo) (move : HostedMove Callback) (later : Echo) :
    Multiset Nat → Nat → Multiset Nat → Nat → Prop where
  | pass {tenants : Multiset Nat} {others : Nat} : occupies move = false → vacated? move = none →
      (∀ number, shuts number move = false) → Turnover echo move later tenants others tenants others
  /-- A place is taken for a session that is going to be created. -/
  | occupy {tenants : Multiset Nat} {others : Nat} : occupies move = true → vacated? move = none →
      (∀ number, shuts number move = false) →
        Turnover echo move later tenants others tenants (others + 1)
  /-- The session is created. -/
  | make {tenants : Multiset Nat} {others : Nat} : occupies move = false → vacated? move = none →
      (∀ number, shuts number move = false) → Lives later echo.sessions.length →
        Turnover echo move later tenants (others + 1) (tenants + {echo.sessions.length}) others
  | shut {tenants : Multiset Nat} {others : Nat} (closing : Nat) : occupies move = false →
      vacated? move = none → (∀ number, shuts number move = true → number = closing) →
        Turnover echo move later (tenants + {closing}) others tenants (others + 1)
  /-- The place of a session that was closed is given back. -/
  | vacate {tenants : Multiset Nat} {others : Nat} (closed : Nat) : occupies move = false →
      vacated? move = some closed → (∀ number, shuts number move = false) →
        Turnover echo move later tenants (others + 1) tenants others

theorem handed_of_closes {request : Connection.Request Callback Nat}
    (closing : closes request = true) (reply : Connection.Reply request) :
    handed request reply = 0 := by
  cases request with
  | discard | sweep => rfl
  | _ => cases closing

theorem handed_of_not_serves {request : Connection.Request Callback Nat}
    (aside : serves request = false) (reply : Connection.Reply request) :
    handed request reply = 0 := by
  cases request with
  | create | assign => cases aside
  | _ => rfl

/-- When a request has been met, the places are where they were, or are handed on. -/
theorem turnover_told (echo : Echo) (move : HostedMove Callback) (later : Echo)
    (registry : Registry Nat) (request : Connection.Request Callback Nat)
    (reply : Connection.Reply request)
    (aside : occupies move = false) (keeps : vacated? move = none)
    (none : ∀ number, shuts number move = false) :
    Turnover echo move later (↑registry.sessions + handed request reply) 0
      (↑registry.sessions +
        ((told (Connection.component Callback Nat) request reply).map tenant).sum)
      ((told (Connection.component Callback Nat) request reply).map place).sum := by
  have handing : ((told (Connection.component Callback Nat) request reply).map tenant).sum =
      handed request reply := tenant_resumed request reply
  rw [handing, told, sum_place_liftHost]
  exact .pass aside keeps none

section Exchange

variable {state next : Connection Callback Nat × Echo} {move : HostedMove Callback}
variable {taken put : List (HostedFrame Callback)}

theorem proper_told (request : Connection.Request Callback Nat) (reply : Connection.Reply request) :
    ∀ frame ∈ told (Connection.component Callback Nat) request reply, proper frame = true :=
  List.forall_mem_map.2 (proper_resumed request reply)

theorem proper_exchange
    (exchange : HostedExchange silent state move taken next put)
    (keeps : ∀ frame ∈ taken, proper frame = true) (stays : removes move = false) :
    ∀ frame ∈ put, proper frame = true := by
  cases exchange with
  | inner task =>
      exact List.forall_mem_map.2 (proper_step state.1 task (keeps _ (List.mem_singleton_self _)))
  | welcome => exact List.forall_mem_singleton.2 rfl
  | occupy | consult => exact List.forall_mem_cons.2 ⟨rfl, List.forall_mem_singleton.2 rfl⟩
  | shut | vacate | «begin» =>
      have kind := keeps _ (List.mem_singleton_self _)
      exact List.forall_mem_singleton.2 kind
  | enter method =>
      cases method with
      | closeSession | closeSessions => cases stays
      | _ => exact List.forall_mem_singleton.2 rfl
  | decline | make | assign | refuse | count | late | conclude | finish => exact proper_told _ _

theorem turnover_of_exchange
    (exchange : HostedExchange silent state move taken next put)
    (keeps : ∀ frame ∈ taken, proper frame = true)
    (lives : ∀ number ∈ (taken.map tenant).sum, Lives state.2 number) :
    Turnover state.2 move next.2 (↑state.1.registry.sessions + (taken.map tenant).sum)
      (taken.map place).sum (↑next.1.registry.sessions + (put.map tenant).sum)
      (put.map place).sum := by
  cases exchange with
  | inner task =>
      have passed := tenant_step state.1 task (keeps _ (List.mem_singleton_self _))
      rw [List.map_singleton, List.sum_singleton, ← passed, sum_place_liftHost]
      exact .pass rfl rfl fun _ => rfl
  | welcome | consult | «begin» => exact .pass rfl rfl fun _ => rfl
  | occupy => exact .occupy rfl rfl fun _ => rfl
  | decline arrival identifier =>
      exact turnover_told _ _ _ state.1.registry (.create arrival identifier) (.ok none) rfl rfl
        fun _ => rfl
  | make arrival identifier =>
      have turned : Turnover state.2
          (.work (.creating arrival identifier .make) : HostedMove Callback)
          { state.2 with sessions := state.2.sessions ++ [{ remote := arrival.remote }] }
          ↑state.1.registry.sessions (0 + 1)
          (↑state.1.registry.sessions + {state.2.sessions.length}) 0 :=
        .make rfl rfl (fun _ => rfl) ⟨{ remote := arrival.remote }, by simp, rfl⟩
      simpa [told, Connection.component, Connection.resumed, liftHost, tenant, place] using turned
  | assign number identifier buffer =>
      exact turnover_told _ _ _ state.1.registry (.assign number identifier buffer) () rfl rfl
        fun _ => rfl
  | refuse number arrival identifier =>
      exact turnover_told _ _ _ state.1.registry (.process number arrival identifier)
        (.error (.session "session closed")) rfl rfl fun _ => rfl
  | count number arrival identifier =>
      exact turnover_told _ _ _ state.1.registry (.process number arrival identifier)
        (.ok arrival.datagram.length) rfl rfl fun _ => rfl
  | shut number request reply =>
      have turned (later : Echo) :
          Turnover state.2 (.work (.closing number .shut request reply)) later
          (↑state.1.registry.sessions + {number}) 0 ↑state.1.registry.sessions (0 + 1) :=
        .shut number rfl rfl fun other shut => (of_decide_eq_true shut).symm
      simpa [tenant, place] using turned _
  | late number request reply dead =>
      exact absurd (lives number (Multiset.mem_singleton_self number)) dead
  | vacate number => exact .vacate number rfl rfl fun _ => rfl
  | conclude number request reply ended =>
      have none : handed request reply = 0 :=
        handed_of_closes (keeps _ (List.mem_singleton_self _)) reply
      have turned := turnover_told state.2 (.work (.closing number .conclude request reply))
        { state.2 with ended := ended } state.1.registry request reply rfl rfl fun _ => rfl
      rw [none] at turned
      exact turned
  | finish request reply =>
      have aside : serves request = false := by
        simpa [proper] using keeps _ (List.mem_singleton_self _)
      have turned := turnover_told state.2 (.finish request reply) state.2 state.1.registry request
        reply rfl rfl fun _ => rfl
      rw [handed_of_not_serves aside] at turned
      exact turned
  | enter method => cases method <;> exact .pass rfl rfl fun _ => rfl

end Exchange

/-! ## The books of the factory -/

/-- The counter neither overflows nor goes below zero. -/
theorem Effect.toNat_active {echo later : Echo} {move : HostedMove Callback}
    (effect : Effect echo move later) (room : occupies move = true → echo.active < echo.limit)
    (some : (vacated? move).isSome = true → 0 < echo.active.toNat) :
    later.active.toNat + (vacated? move).toList.length =
      echo.active.toNat + [move].countP occupies := by
  have turn := congrArg UInt64.toNat effect.active
  have before := echo.active.toNat_lt
  have after := later.active.toNat_lt
  have bound := echo.limit.toNat_lt
  rw [UInt64.toNat_add, UInt64.toNat_add] at turn
  cases given : vacated? move <;> cases taken : occupies move <;>
    simp_all [UInt64.lt_iff_toNat_lt] <;> omega

/-- All places are taken by sessions that are open and differ, or by others. -/
structure Roster (echo : Echo) (tenants : Multiset Nat) (others : Nat) : Prop where
  distinct : tenants.Nodup
  lives : ∀ number ∈ tenants, Lives echo number
  active : echo.active.toNat = tenants.card + others

theorem add_singleton_add (first rest : Multiset Nat) (number : Nat) :
    first + {number} + rest = number ::ₘ (first + rest) := by
  rw [add_right_comm, add_comm, Multiset.singleton_add]

/-- What a move does keeps the roster, and counts. -/
theorem Turnover.roster {echo later : Echo} {move : HostedMove Callback}
    {before after rest : Multiset Nat} {placed placedLater aside : Nat}
    (turnover : Turnover echo move later before placed after placedLater)
    (effect : Effect echo move later) (roster : Roster echo (before + rest) (placed + aside))
    (room : occupies move = true → echo.active < echo.limit) :
    Roster later (after + rest) (placedLater + aside) ∧
      later.active.toNat + (vacated? move).toList.length =
        echo.active.toNat + [move].countP occupies := by
  obtain ⟨distinct, lives, active⟩ := roster
  have given : (vacated? move).isSome = true → 0 < echo.active.toNat := by
    intro given
    cases turnover with
    | vacate => omega
    | pass _ keeps | occupy _ keeps | make _ keeps | shut _ _ keeps => simp [keeps] at given
  have counter := effect.toNat_active room given
  refine ⟨?_, counter⟩
  cases turnover with
  | pass takes keeps still | occupy takes keeps still | vacate _ takes keeps still =>
      refine ⟨distinct, fun number member => effect.lives (lives number member) (still number), ?_⟩
      simp only [List.countP_singleton, takes, keeps, Option.toList, List.length_singleton,
        List.length_nil, Bool.false_eq_true, if_true, if_false] at counter
      omega
  | make takes keeps still born =>
      rw [add_singleton_add]
      refine ⟨Multiset.nodup_cons.2 ⟨fun member => ?_, distinct⟩, fun number member => ?_, ?_⟩
      · exact (lives_iff.1 (lives _ member)).1.false
      · rcases Multiset.mem_cons.1 member with rfl | old
        · exact born
        · exact effect.lives (lives number old) (still number)
      · rw [Multiset.card_cons]
        simp only [List.countP_singleton, takes, keeps, Option.toList, List.length_nil,
          Bool.false_eq_true, if_false] at counter
        omega
  | shut closing takes keeps only =>
      rw [add_singleton_add] at distinct lives active
      obtain ⟨gone, distinct⟩ := Multiset.nodup_cons.1 distinct
      refine ⟨distinct, fun number member => ?_, ?_⟩
      · refine effect.lives (lives number (Multiset.mem_cons_of_mem member)) ?_
        exact Bool.eq_false_iff.2 fun shut => gone (only number shut ▸ member)
      · rw [Multiset.card_cons] at active
        simp only [List.countP_singleton, takes, keeps, Option.toList, List.length_nil,
          Bool.false_eq_true, if_false] at counter
        omega

/-- The books after some moves. -/
structure Tenancy (limit : UInt64) (moves : List (HostedMove Callback))
    (state : Connection Callback Nat × Echo) (frames : Multiset (HostedFrame Callback)) : Prop where
  keeps : ∀ frame ∈ frames, proper frame = true
  roster : Roster state.2 (tenants state.1.registry frames) (total place frames)
  bound : state.2.limit = limit
  within_bound : state.2.active ≤ limit
  even : state.2.active.toNat + (moves.filterMap vacated?).length = moves.countP occupies

theorem tenants_add (registry : Registry Nat) (frames : List (HostedFrame Callback))
    (rest : Multiset (HostedFrame Callback)) :
    tenants registry (↑frames + rest : Multiset (HostedFrame Callback)) =
      ↑registry.sessions + (frames.map tenant).sum + total tenant rest := by
  rw [tenants, total_add, total_coe, add_assoc]

theorem Tenancy.exchange {limit : UInt64} {moves : List (HostedMove Callback)}
    {state next : Connection Callback Nat × Echo} {move : HostedMove Callback}
    {taken put : List (HostedFrame Callback)} {rest : Multiset (HostedFrame Callback)}
    (tenancy : Tenancy limit moves state (↑taken + rest))
    (exchange : HostedExchange silent state move taken next put) (stays : removes move = false)
    (room : occupies move = true → state.2.active < limit) :
    Tenancy limit (moves ++ [move]) next (↑put + rest) := by
  obtain ⟨keeps, roster, rfl, within, even⟩ := tenancy
  have keepsTaken : ∀ frame ∈ taken, proper frame = true := fun frame member =>
    keeps frame (Multiset.mem_add.2 (.inl member))
  have effect := effect_of_exchange exchange
  rw [tenants_add, total_add, total_coe] at roster
  have turnover := turnover_of_exchange exchange keepsTaken fun number member =>
    roster.lives number (by simp [member])
  obtain ⟨later, counter⟩ := turnover.roster effect roster room
  constructor
  · intro frame member
    rcases Multiset.mem_add.1 member with new | old
    · exact proper_exchange exchange keepsTaken stays frame new
    · exact keeps frame (Multiset.mem_add.2 (.inr old))
  · rw [tenants_add, total_add, total_coe]
    exact later
  · exact effect.limit
  · cases takes : occupies move with
    | false =>
        simp only [List.countP_singleton, takes, Bool.false_eq_true, if_false] at counter
        rw [UInt64.le_iff_toNat_le] at within ⊢
        omega
    | true =>
        have room := UInt64.lt_iff_toNat_lt.1 (room takes)
        simp only [List.countP_singleton, takes, if_true] at counter
        rw [UInt64.le_iff_toNat_le]
        omega
  · simp only [List.filterMap_append, filterMap_singleton, List.length_append, List.countP_append]
    omega

/-! ## Nobody comes between the look at the counter and taking a place -/

theorem not_takes_liftHost (frames : List (Connection.ConnectionFrame Callback Nat)) :
    ∀ frame ∈ frames.map liftHost, takes frame = false :=
  List.forall_mem_map.2 fun frame _ => takes_liftHost frame

/-- Only a look at the counter leads to taking a place, and only while there is room. -/
theorem takes_of_exchange {state next : Connection Callback Nat × Echo} {move : HostedMove Callback}
    {taken put : List (HostedFrame Callback)}
    (exchange : HostedExchange silent state move taken next put) :
    (∀ frame ∈ put, takes frame = false) ∨
      (put.tail = [] ∧ next.2 = state.2 ∧ state.2.active < state.2.limit) := by
  cases exchange with
  | welcome arrival identifier room => exact .inr ⟨rfl, rfl, room⟩
  | occupy | consult =>
      exact .inl (List.forall_mem_cons.2 ⟨rfl, List.forall_mem_singleton.2 rfl⟩)
  | shut | vacate | «begin» => exact .inl (List.forall_mem_singleton.2 rfl)
  | inner | enter | decline | make | assign | refuse | count | late | conclude | finish =>
      exact .inl (not_takes_liftHost _)

/-- The books of one thread after some moves: a place is only taken after a look at the counter. -/
structure Seated (limit : UInt64) (moves : List (HostedMove Callback))
    (state : Connection Callback Nat × Echo) (stack : List (HostedFrame Callback)) : Prop where
  tenancy : Tenancy limit moves state ↑stack
  top : ∀ frame ∈ stack.head?, takes frame = true → state.2.active < limit
  below : ∀ frame ∈ stack.tail, takes frame = false

theorem Seated.step {limit : UInt64} {moves : List (HostedMove Callback)}
    {state next : Connection Callback Nat × Echo} {move : HostedMove Callback}
    {stack nextStack : List (HostedFrame Callback)} (seated : Seated limit moves state stack)
    (step : Step (hosted silent) state stack move next nextStack) (stays : removes move = false) :
    Seated limit (moves ++ [move]) next nextStack := by
  obtain ⟨tenancy, top, below⟩ := seated
  have calm (frame : HostedFrame Callback) (under : frame.isInside = true) :
      (!takes frame) = true := by
    cases frame with
    | inside request => rfl
    | task | call => cases under
  obtain ⟨taken, put, rest, rfl, rfl, exchange, under⟩ :=
    step.exchange_of_tail calm fun frame member => by simp [below frame member]
  replace exchange := hostExchange_of_exchange exchange
  have under : ∀ frame ∈ rest, takes frame = false := fun frame member => by
    simpa using under frame member
  rw [← Multiset.coe_add] at tenancy
  have room : occupies move = true → state.2.active < limit := by
    intro occupying
    cases exchange with
    | occupy => exact top _ rfl rfl
    | _ => cases occupying
  have later := tenancy.exchange exchange stays room
  rw [Multiset.coe_add] at later
  have calmed (none : ∀ frame ∈ put ++ rest, takes frame = false) :
      Seated limit (moves ++ [move]) next (put ++ rest) := by
    refine ⟨later, fun frame first taking => ?_, fun frame member => ?_⟩
    · exact absurd (none frame (List.mem_of_mem_head? first)) (by simp [taking])
    · exact none frame (List.mem_of_mem_tail member)
  rcases takes_of_exchange exchange with none | ⟨single, same, free⟩
  · exact calmed fun frame member => (List.mem_append.1 member).elim (none frame) (under frame)
  · rcases put with - | ⟨first, put⟩
    · exact calmed under
    · obtain rfl : put = [] := single
      exact ⟨later, fun _ _ _ => by rwa [same, ← tenancy.bound], under⟩

section Run

variable {config : Config} {limit : UInt64} {first last : Connection Callback Nat} {echo : Echo}
variable {moves : List (HostedMove Callback)} {stack : List (HostedFrame Callback)}

theorem tenancy_new (opened : Connection.new config = .ok first) :
    Tenancy limit [] (first, { limit := limit }) (↑([] : List (HostedFrame Callback))) := by
  have nobody : tenants first.registry (0 : Multiset (HostedFrame Callback)) = 0 := by
    rw [Connection.new_eq opened]
    rfl
  constructor
  · exact fun _ member => nomatch member
  · rw [Multiset.coe_nil, nobody]
    exact ⟨Multiset.nodup_zero, fun _ member => (nomatch member), rfl⟩
  · rfl
  · exact UInt64.le_iff_toNat_le.2 (Nat.zero_le _)
  · rfl

theorem seated_of_run (opened : Connection.new config = .ok first)
    (run : Run (hosted silent) (first, { limit := limit }) [] moves (last, echo) stack)
    (stays : moves.any removes = false) : Seated limit moves (last, echo) stack := by
  refine run.invariant_of_step (fun moves state stack =>
    moves.any removes = false → Seated limit moves state stack) ?_ ?_ stays
  · intro moves state stack move next nextStack step before stays
    rw [List.any_append, Bool.or_eq_false_iff] at stays
    exact (before stays.1).step step (by simpa using stays.2)
  · intro _
    exact ⟨tenancy_new opened, fun _ top => (nomatch top), fun _ member => (nomatch member)⟩

/-- When a closed connection has taken out its sessions, none is registered any more. -/
theorem vacant_of_closed (opened : Connection.new config = .ok first)
    (run : Run (hosted silent) (first, { limit := limit }) [] moves (last, echo) stack)
    (stays : moves.any removes = false) (closed : last.closed = true)
    (wound : ∀ frame ∈ stack, Connection.windsUp (shown frame) = false) :
    last.registry.entries = [] := by
  obtain ⟨seen, inner, entered⟩ := exists_run_of_hosted run
  have own : seen.any Connection.demands = false := by
    rw [List.any_eq_false]
    rintro move member demanded
    cases move with
    | enter method =>
        cases method with
        | closeSessions =>
            rcases entered _ member with asked | ⟨entry, sent⟩
            · exact List.any_eq_false.1 stays _ asked rfl
            · cases sent
        | _ => cases demanded
    | _ => cases demanded
  obtain ⟨stage, marks, vacant⟩ := Connection.exists_stage opened inner own closed
  exact vacant ((Connection.wound_iff marks).1 (List.forall_mem_map.2 wound))

theorem card_add_place (stack : List (HostedFrame Callback)) :
    (stack.map tenant).sum.card + (stack.map place).sum = (stack.map places).sum := by
  induction stack with
  | nil => rfl
  | cons frame rest ih =>
      simp only [List.map_cons, List.sum_cons, Multiset.card_add, places] at ih ⊢
      omega

theorem active_eq_of_run (opened : Connection.new config = .ok first)
    (run : Run (hosted silent) (first, { limit := limit }) [] moves (last, echo) stack)
    (stays : moves.any removes = false) :
    echo.active.toNat = last.registry.size + (stack.map places).sum := by
  have active := (seated_of_run opened run stays).tenancy.roster.active
  rw [tenants, total_coe, total_coe, Multiset.card_add, Multiset.coe_card, add_assoc,
    card_add_place] at active
  rwa [Registry.size, ← List.length_map]

/--
A connection that hosts echo sessions and is used by one thread, which takes out no sessions on its
own. At any moment no more places are taken than there may be, and the counter has gone up once for
each place that was taken and down once for each that was given back, without passing zero. Whenever
the thread has returned, the counter tells how many sessions are registered, which is none once the
connection is closed; if calls are still under way then, only places that they have taken are left.
Whatever hosts the sessions, and however often and by however many threads they are asked to close,
the counter goes down once for each session that is closed.
-/
theorem active_counts_sessions (opened : Connection.new config = .ok first)
    (run : Run (hosted silent) (first, { limit := limit }) [] moves (last, echo) stack)
    (stays : moves.any removes = false) :
    echo.active ≤ limit ∧
      echo.active.toNat + (moves.filterMap vacated?).length = moves.countP occupies ∧
      (stack = [] → echo.active.toNat = last.registry.size ∧ (last.closed = true → echo.active = 0)) ∧
      (last.closed = true → (∀ frame ∈ stack, Connection.windsUp (shown frame) = false) →
        echo.active.toNat = (stack.map places).sum) ∧
      ∀ {State Task Method : Type}
        (inner : Component State Task (Connection.Request Callback Nat) Method Connection.Reply)
        (send : WriteEntry Callback → Method) (state : State) (factory : Echo) (count : Nat)
        (turns : List (Nat × HostMove Task Method Callback))
        (final : Threads (State × Echo) (HostTask Task Callback) (Connection.Request Callback Nat)),
        ThreadRun (host inner send silent) ⟨(state, factory), List.replicate count []⟩ turns final →
          let lowered := (turns.map Prod.snd).filterMap vacated?
          lowered.Nodup ∧
            final.state.2.active + .ofNat lowered.length =
              factory.active + .ofNat ((turns.map Prod.snd).countP occupies) ∧
            (final.Quiet → ∀ number, Lives factory number →
              lowered.count number = ((turns.map Prod.snd).any (shuts number)).toNat) := by
  have tenancy := (seated_of_run opened run stays).tenancy
  have active := active_eq_of_run opened run stays
  have size (closed : last.closed = true)
      (wound : ∀ frame ∈ stack, Connection.windsUp (shown frame) = false) :
      last.registry.size = 0 := by
    rw [Registry.size, vacant_of_closed opened run stays closed wound, List.length_nil]
  refine ⟨tenancy.within_bound, tenancy.even, ?_, ?_, ?_⟩
  · rintro rfl
    refine ⟨active, fun closed => ?_⟩
    rw [size closed (List.forall_mem_nil _)] at active
    exact UInt64.toNat_inj.1 active
  · intro closed wound
    rw [active, size closed wound, zero_add]
  · intro State Task Method inner send state factory count turns final threads lowered
    have vacated := vacated_of_threadRun threads
    refine ⟨vacated.nodup, vacated.active, fun quiet number lives => ?_⟩
    rw [gathered_of_quiet quiet] at vacated
    exact vacated.count_eq lives

end Run

abbrev HostedChoice :=
  Choice (Connection.Request Nat Nat) (Connection.Method Nat) Connection.Reply

/-- What is asked for next is met, with this datagram if the endpoint is asked for one. -/
def met (datagram : Bytes) : HostedChoice :=
  .finish fun request =>
    match request with
    | .fill buffer =>
        ({ buffer with contents := datagram }, .ok (.datagram datagram.length client))
    | request => Connection.answers .empty request

/-- The connection goes on after each choice until it asks for something again. -/
def goingOn (choices : List HostedChoice) : List HostedChoice :=
  choices.flatMap fun choice => choice :: List.replicate 16 .proceed

/--
One session is registered. While the datagram of a second one is sent back, the connection learns
that the write has failed, and closes.
-/
def failingCreation : List HostedChoice :=
  goingOn
    [.enter .fillable, met [], met (opening 17), met [], .enter (.complete 0 (.ok ())), met [],
      met (opening 18), .enter (.complete 1 (.error (.system .brokenPipe))), met []]

/-- The new session is created and closed at once, and there is nothing more to read. -/
def lateDeparture : List HostedChoice :=
  goingOn (List.replicate 5 (.finish (Connection.answers .empty)))

/-- Anybody may ask the factory and the sessions for anything. -/
def asking : Component Unit Empty (Connection.Request Nat Nat) (Connection.Request Nat Nat)
    Connection.Reply where
  body request := [.call request]
  step _ task := nomatch task
  resume _ _ := []

/-- Two threads ask the same session to close at the same time, and then one of them asks again. -/
def closedThrice :
    List (Nat × Choice (Connection.Request Nat Nat) (Connection.Request Nat Nat) Connection.Reply) :=
  [(0, .enter (.discard 0 (.empty 0))), (1, .enter (.discard 0 (.empty 0))), (0, .proceed),
    (1, .proceed), (0, .proceed), (0, .proceed), (1, .enter (.discard 0 (.empty 0))), (1, .proceed)]

theorem active_after_failingCreation :
    let component := hosted (0 : Nat)
    let during := Trace.follow component ({}, { limit := 2 }) failingCreation
    let after := Trace.follow component ({}, { limit := 2 }) (failingCreation ++ lateDeparture)
    let factory : Echo := { limit := 2, active := 1, sessions := [{ remote := client }] }
    let ended := ThreadTrace.follow (host asking (fun _ => .interest) 0)
      ⟨((), factory), List.replicate 2 []⟩ closedThrice
    (during.state.1.closed = true ∧ during.state.2.active.toNat = 1) ∧
      (after.stack = [] ∧ after.state.2.sessions.length = 2 ∧ after.state.2.active = 0) ∧
      (((ended.moves.map Prod.snd).countP (shuts 0) = 3) ∧
        ((ended.moves.map Prod.snd).filterMap vacated?).count 0 = 1) := by
  intro component during after factory ended
  have opened : Connection.new {} = .ok ({} : Connection Nat Nat) := rfl
  have run : Run component ({}, { limit := 2 }) [] during.moves during.state during.stack :=
    Trace.run_follow component _ failingCreation
  have whole : Run component ({}, { limit := 2 }) [] after.moves after.state after.stack :=
    Trace.run_follow component _ (failingCreation ++ lateDeparture)
  have threads : ThreadRun (host asking (fun _ => .interest) 0) ⟨((), factory), List.replicate 2 []⟩
      ended.moves ended.threads := ThreadTrace.run_follow _ _ closedThrice
  have stays : during.moves.any removes = false := by decide +kernel
  have closed : during.state.1.closed = true := by decide +kernel
  have wound : ∀ frame ∈ during.stack, Connection.windsUp (shown frame) = false := by decide +kernel
  have left : (during.stack.map places).sum = 1 := by decide +kernel
  have staysToo : after.moves.any removes = false := by decide +kernel
  have idle : after.stack = [] := List.isEmpty_iff.1 (by decide +kernel)
  have closedToo : after.state.1.closed = true := by decide +kernel
  have two : after.state.2.sessions.length = 2 := by decide +kernel
  have empty : ∀ stack ∈ ended.threads.frames, stack.isEmpty = true := by decide +kernel
  have quiet : ended.threads.Quiet := fun stack member => List.isEmpty_iff.1 (empty stack member)
  have thrice : (ended.moves.map Prod.snd).countP (shuts 0) = 3 := by decide +kernel
  have asked : (ended.moves.map Prod.snd).any (shuts 0) = true := by decide +kernel
  clear_value during after ended
  obtain ⟨-, -, -, places, -⟩ := active_counts_sessions opened run stays
  obtain ⟨-, -, returned, -, once⟩ := active_counts_sessions opened whole staysToo
  refine ⟨⟨closed, (places closed wound).trans left⟩,
    ⟨idle, two, (returned idle).2 closedToo⟩, thrice, ?_⟩
  rw [(once _ _ _ _ _ _ _ threads).2.2 quiet 0 ⟨_, rfl, rfl⟩, asked]
  rfl

end DatagramMux.Echo
