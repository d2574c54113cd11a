import DatagramMux.Proofs.Connection.Closing
import DatagramMux.Proofs.Connection.Lifecycle
import DatagramMux.Proofs.Flusher.Threads
import Mathlib.Data.List.TakeWhile

/-!
# What closing a connection achieves

The first call of closing takes the sessions that are registered out of the registry, one after the
other, and has each of them closed, unless it was taken out in another way before its turn came. Only
then is the endpoint closed, once, and nothing is written to it any more. All other calls of closing
do nothing. This module keeps account of the sessions whose turn has come and of those that wait.
-/

namespace DatagramMux.Connection

open Component

variable {Callback Session : Type}

/-! ## The moves that matter -/

/-- Whether somebody asks for all sessions to be closed although the connection stays open. -/
def demands : ConnectionMove Callback Session → Bool
  | .enter .closeSessions => true
  | _ => false

/-- Whether a call of closing sees if it is the first one. -/
def shuts : ConnectionMove Callback Session → Bool
  | .work .shut => true
  | _ => false

def closesEndpoint : ConnectionMove Callback Session → Bool
  | .begin .closeEndpoint => true
  | _ => false

def writes : ConnectionMove Callback Session → Bool
  | .begin (.flusher (.write _ _)) => true
  | _ => false

/-- The session that begins to be closed because the connection is. -/
def swept : ConnectionMove Callback Session → Option Session
  | .begin (.sweep (.close session _ _ .shutdown)) => some session
  | _ => none

/-- Whether it is an identifier's turn when the connection is closed. -/
def turns (identifier : ConnectionId) : ConnectionMove Callback Session → Bool
  | .work (.sweep (.next (other :: _) _ .shutdown)) => other = identifier
  | _ => false

/-- Whether a session is taken out of the registry by its identifier. -/
def unregisters (identifier : ConnectionId) : ConnectionMove Callback Session → Bool
  | .work (.unregister other) => other = identifier
  | _ => false

/-- Whether a session is taken out of the registry by its identifier before its turn. -/
def forestalled (identifier : ConnectionId) (moves : List (ConnectionMove Callback Session)) :
    Bool :=
  (moves.takeWhile fun move => !turns identifier move).any (unregisters identifier)

/-- The sessions that are registered and are not taken out before their turn. -/
def due (registry : Registry Session) (moves : List (ConnectionMove Callback Session)) :
    List Session :=
  (registry.entries.filter fun entry => !forestalled entry.1 moves).map Prod.snd

theorem not_unregisters_of_turns {identifier : ConnectionId} {move : ConnectionMove Callback Session}
    (turn : turns identifier move = true) (other : ConnectionId) :
    unregisters other move = false := by
  unfold turns at turn
  split at turn
  · rfl
  · cases turn

/-- What has nothing to do with closing closes nothing and is nobody's turn. -/
theorem aside_of_not_tears {move : ConnectionMove Callback Session} (calm : tears move = false) :
    swept move = none ∧ closesEndpoint move = false ∧
      ∀ identifier, turns identifier move = false := by
  refine ⟨?_, ?_, fun identifier => ?_⟩
  · unfold swept
    split
    · cases calm
    · rfl
  · unfold closesEndpoint
    split
    · cases calm
    · rfl
  · unfold turns
    split
    · cases calm
    · rfl

section Forestalled

variable {identifier : ConnectionId} {moves : List (ConnectionMove Callback Session)}
variable {move : ConnectionMove Callback Session}

/-- What happens after its turn makes no difference to a session. -/
theorem forestalled_append_of_turned (turned : ∃ turn ∈ moves, turns identifier turn = true) :
    forestalled identifier (moves ++ [move]) = forestalled identifier moves := by
  have ended : (moves.takeWhile fun move => !turns identifier move).length ≠ moves.length := by
    intro same
    have whole := (List.takeWhile_prefix fun move => !turns identifier move).eq_of_length same
    obtain ⟨turn, member, turning⟩ := turned
    have before := List.mem_takeWhile_imp (whole.symm ▸ member)
    simp [turning] at before
  rw [forestalled, List.takeWhile_append, if_neg ended]
  rfl

theorem forestalled_append_of_waiting (waiting : ∀ turn ∈ moves, turns identifier turn = false) :
    forestalled identifier (moves ++ [move]) =
      (forestalled identifier moves || unregisters identifier move) := by
  have whole : (moves.takeWhile fun move => !turns identifier move) = moves :=
    List.takeWhile_eq_self_iff.2 fun turn member => by rw [waiting turn member]; rfl
  rw [forestalled, List.takeWhile_append, forestalled, whole, if_pos rfl, List.any_append]
  cases turn : turns identifier move with
  | true =>
      rw [List.takeWhile_cons_of_neg (by simp [turn]), not_unregisters_of_turns turn]
      rfl
  | false => rw [List.takeWhile_cons_of_pos (by simp [turn]), List.takeWhile_nil, List.any_cons,
      List.any_nil, Bool.or_false]

end Forestalled

/-! ## Nobody else takes sessions out -/

/-- Whether a frame has to do with closing all sessions of an open connection. -/
def onDemand : ConnectionFrame Callback Session → Bool
  | .task (.hold .closeSessions) | .task (.sweep (.list .demand))
  | .task (.sweep (.next _ _ .demand)) | .call (.sweep (.close _ _ _ .demand))
  | .inside (.sweep (.close _ _ _ .demand)) => true
  | _ => false

theorem any_onDemand_liftFlusher (frames : List (Flusher.FlusherFrame Callback)) :
    (frames.map liftFlusher : List (ConnectionFrame Callback Session)).any onDemand = false := by
  simp only [List.any_eq_false, Bool.not_eq_true]
  exact forall_mem_liftFlusher (fun frame => onDemand frame = false) (fun _ => rfl) rfl (fun _ => rfl)
    (fun _ => rfl) frames

/-- As long as nobody asks for all sessions to be closed, nobody deals with that. -/
theorem exchange_onDemand {connection next : Connection Callback Session}
    {move : ConnectionMove Callback Session} {taken put : List (ConnectionFrame Callback Session)}
    (exchange : Exchange (component Callback Session) connection move taken next put)
    (own : demands move = false) (none : taken.any onDemand = false) :
    put.any onDemand = false := by
  cases exchange with
  | work task =>
      cases task with
      | flusher task => exact any_onDemand_liftFlusher _
      | sweep task =>
          cases task with
          | list purpose => cases purpose <;> exact none
          | next left count purpose =>
              cases purpose with
              | demand => cases none
              | shutdown =>
                  rcases left with - | ⟨identifier, left⟩
                  · rfl
                  · cases found : connection.registry.lookup? identifier <;>
                      simp [component, step, Registry.sweepStep, Registry.remove, found, liftSweep,
                        onDemand]
      | hold method => cases method <;> exact none
      | react | shut | unregister | identify | route | vet | register | confirm | withdraw =>
          simp only [component, step]
          split <;> rfl
      | _ => rfl
  | «begin» request =>
      cases request with
      | sweep request => cases request with
        | close session left count purpose => cases purpose <;> exact none
        | report => rfl
      | _ => rfl
  | finish request reply =>
      cases request with
      | flusher request => cases request <;> rfl
      | sweep request =>
          cases request with
          | close session left count purpose => cases purpose <;> exact none
          | report => rfl
      | release buffer ending => cases ending <;> rfl
      | fill buffer => obtain ⟨buffer, cause | ⟨- | - | -⟩⟩ := reply <;> rfl
      | isOpen => obtain - | - := reply <;> rfl
      | create arrival identifier => obtain error | - | session := reply <;> rfl
      | process session arrival identifier => obtain error | consumed := reply <;> rfl
      | _ => rfl
  | enter method => cases method <;> first | rfl | cases own

/-- Without such a demand only closing the connection goes through the registered sessions. -/
def Own : ConnectionMove Callback Session → Prop
  | .work (.sweep (.next _ _ .demand)) => False
  | _ => True

theorem own_of_exchange {connection next : Connection Callback Session}
    {move : ConnectionMove Callback Session} {taken put : List (ConnectionFrame Callback Session)}
    (exchange : Exchange (component Callback Session) connection move taken next put)
    (none : taken.any onDemand = false) : Own move := by
  cases exchange with
  | work task =>
      cases task with
      | sweep task =>
          cases task with
          | list purpose => trivial
          | next left count purpose => cases purpose <;> trivial
      | _ => trivial
  | _ => trivial

/-! ## Accounts of the sessions -/

namespace Closing

/-- The identifiers whose turn is still to come, once they have been listed. -/
def left? : Closing Session → Option (List ConnectionId)
  | .listing => none
  | .sweeping left | .removing _ left => some left
  | .counting | .halting | .parting | .leaving | .over => some []

/-- How often the endpoint has been closed. -/
def leavings : Closing Session → Nat
  | .leaving | .over => 1
  | _ => 0

/-- Whether the flusher has been terminated in order to close the endpoint. -/
def halted : Closing Session → Bool
  | .parting | .leaving | .over => true
  | _ => false

/-- The session that was taken out and is about to be closed. -/
def removed? : Closing Session → Option Session
  | .removing session _ => some session
  | _ => none

end Closing

/--
The sessions that were registered when closing began: those whose turn has come were closed unless
they had been taken out before, and those that wait are still registered unless they were taken out.
-/
structure Account (entries : List (ConnectionId × Session))
    (moves : List (ConnectionMove Callback Session)) (connection : Connection Callback Session)
    (stage : Closing Session) (turned waiting : List (ConnectionId × Session)) : Prop where
  whole : entries = turned ++ waiting
  left : ∀ left ∈ stage.left?, left = waiting.map Prod.fst
  registered : connection.registry.entries = waiting.filter fun entry => !forestalled entry.1 moves
  swept : moves.filterMap swept ++ stage.removed?.toList =
    (turned.filter fun entry => !forestalled entry.1 moves).map Prod.snd
  turned : ∀ entry ∈ turned, ∃ turn ∈ moves, turns entry.1 turn = true
  waiting : ∀ entry ∈ waiting, ∀ turn ∈ moves, turns entry.1 turn = false

namespace Account

variable {entries turned waiting : List (ConnectionId × Session)}
variable {moves : List (ConnectionMove Callback Session)} {move : ConnectionMove Callback Session}
variable {connection next : Connection Callback Session} {stage later : Closing Session}

/-- A move that is nobody's turn. -/
theorem still (account : Account entries moves connection stage turned waiting)
    (left : ∀ left ∈ later.left?, left = waiting.map Prod.fst)
    (registered : next.registry.entries =
      connection.registry.entries.filter fun entry => !unregisters entry.1 move)
    (closed : (Connection.swept move).toList ++ later.removed?.toList = stage.removed?.toList)
    (nobody : ∀ identifier, turns identifier move = false) :
    Account entries (moves ++ [move]) next later turned waiting where
  whole := account.whole
  left := left
  registered := by
    rw [registered, account.registered, List.filter_filter]
    refine List.filter_congr fun entry member => ?_
    rw [forestalled_append_of_waiting (account.waiting entry member), Bool.not_or, Bool.and_comm]
  swept := by
    have same : (turned.filter fun entry => !forestalled entry.1 (moves ++ [move])) =
        turned.filter fun entry => !forestalled entry.1 moves :=
      List.filter_congr fun entry member => by
        rw [forestalled_append_of_turned (account.turned entry member)]
    rw [same, ← account.swept, ← closed, List.filterMap_append, filterMap_singleton,
      List.append_assoc]
  turned entry member := by
    obtain ⟨turn, member, turning⟩ := account.turned entry member
    exact ⟨turn, List.mem_append_left _ member, turning⟩
  waiting entry member turn inMoves := by
    rcases List.mem_append.1 inMoves with old | new
    · exact account.waiting entry member turn old
    · rw [List.mem_singleton.1 new]
      exact nobody entry.1

/-- Whoever's turn it is is found in the registry just if nobody has taken it out before. -/
theorem toList_eq_of_found {registered : List (ConnectionId × Session)} {identifier : ConnectionId}
    {session : Session} {found : Option Session}
    (first : registered = ((identifier, session) :: waiting).filter fun entry =>
      !forestalled entry.1 moves)
    (member : ∀ session, found = some session ↔ (identifier, session) ∈ registered) :
    found.toList =
      ([(identifier, session)].filter fun entry => !forestalled entry.1 moves).map Prod.snd := by
  cases out : forestalled identifier moves with
  | true =>
      have none : found = none := by
        refine Option.eq_none_iff_forall_ne_some.2 fun other here => ?_
        have inside := (member other).1 here
        rw [first, List.mem_filter, out] at inside
        cases inside.2
      simp [none, out]
  | false =>
      have some : found = some session := by
        rw [member, first, List.mem_filter, out]
        exact ⟨List.mem_cons_self, rfl⟩
      simp [some, out]

/-- A move that is the turn of the first one that waits. -/
theorem turn {identifier : ConnectionId} {left : List ConnectionId} {count : Nat}
    (account : Account entries moves connection (.sweeping (identifier :: left)) turned waiting)
    (distinct : (entries.map Prod.fst).Nodup)
    (moved : move = .work (.sweep (.next (identifier :: left) count .shutdown)))
    (registry : next.registry = connection.registry.erase identifier)
    (laterLeft : later.left? = some left)
    (removed : ∀ session, later.removed? = some session ↔
      (identifier, session) ∈ connection.registry.entries) :
    ∃ turned waiting, Account entries (moves ++ [move]) next later turned waiting := by
  have mine : turns identifier move = true := moved ▸ decide_eq_true rfl
  have others : ∀ other, identifier ≠ other → turns other move = false :=
    fun other different => moved ▸ decide_eq_false different
  have nothing : [move].filterMap Connection.swept = [] := moved ▸ rfl
  rcases waiting with - | ⟨⟨other, session⟩, waiting⟩
  · cases account.left _ rfl
  · obtain ⟨rfl, rfl⟩ := List.cons.inj (account.left _ rfl)
    obtain ⟨whole, -, registered, swept, turnedBefore, waitingBefore⟩ := account
    subst whole
    -- No identifier is registered twice, so the turn of the first one is not that of the others.
    have apart : ∀ entry ∈ waiting, identifier ≠ entry.1 := by
      intro entry member same
      rw [List.map_append, List.map_cons] at distinct
      have absent := (List.nodup_cons.1 distinct.of_append_right).1
      exact absent (List.mem_map.2 ⟨entry, member, same.symm⟩)
    have same : ∀ entry ∈ (identifier, session) :: waiting,
        forestalled entry.1 (moves ++ [move]) = forestalled entry.1 moves := by
      intro entry member
      rw [forestalled_append_of_waiting (waitingBefore entry member),
        not_unregisters_of_turns mine, Bool.or_false]
    have sameTurned : ∀ entry ∈ turned ++ [(identifier, session)],
        forestalled entry.1 (moves ++ [move]) = forestalled entry.1 moves := by
      intro entry member
      rcases List.mem_append.1 member with old | new
      · exact forestalled_append_of_turned (turnedBefore entry old)
      · exact same entry (List.mem_singleton.1 new ▸ List.mem_cons_self)
    refine ⟨turned ++ [(identifier, session)], waiting, by simp, ?_, ?_, ?_, ?_, ?_⟩
    · intro left listed
      rw [laterLeft] at listed
      exact (Option.some.inj listed).symm
    · have erased : (connection.registry.erase identifier).entries =
          connection.registry.entries.filter fun entry => ¬ entry.1 = identifier := rfl
      rw [registry, erased, registered, List.filter_filter, List.filter_cons_of_neg (by simp)]
      refine List.filter_congr fun entry member => ?_
      rw [same entry (List.mem_cons_of_mem _ member), decide_eq_true (Ne.symm (apart entry member)),
        Bool.true_and]
    · have closed := toList_eq_of_found registered removed
      have kept := List.filter_congr fun entry member =>
        congrArg (fun out => !out) (sameTurned entry member)
      rw [List.filterMap_append, nothing, List.append_nil, closed, kept, List.filter_append,
        List.map_append, ← swept]
      exact congrArg (· ++ _) (List.append_nil _).symm
    · intro entry member
      rcases List.mem_append.1 member with old | new
      · obtain ⟨turn, member, turning⟩ := turnedBefore entry old
        exact ⟨turn, List.mem_append_left _ member, turning⟩
      · rw [List.mem_singleton.1 new]
        exact ⟨move, List.mem_append_right _ (List.mem_singleton_self _), mine⟩
    · intro entry member turn inMoves
      rcases List.mem_append.1 inMoves with old | new
      · exact waitingBefore entry (List.mem_cons_of_mem _ member) turn old
      · rw [List.mem_singleton.1 new]
        exact others entry.1 (apart entry member)

end Account

section Moved

variable {connection : Connection Callback Session} {move : ConnectionMove Callback Session}

theorem entries_of_registry_eq (same : (moved connection move).registry = connection.registry)
    (kept : ∀ identifier, unregisters identifier move = false) :
    (moved connection move).registry.entries =
      connection.registry.entries.filter fun entry => !unregisters entry.1 move := by
  rw [same]
  exact (List.filter_eq_self.2 fun entry _ => by rw [kept entry.1]; rfl).symm

/-- Once closing has begun, only those who ask for it by identifier take sessions out besides. -/
theorem entries_of_bystands (bystands : Bystands connection move) (own : Own move) :
    (moved connection move).registry.entries =
      connection.registry.entries.filter fun entry => !unregisters entry.1 move := by
  cases move with
  | work task =>
      cases task with
      | unregister identifier =>
          have erased : (moved connection (.work (.unregister identifier))).registry =
              connection.registry.erase identifier := by
            rw [← Registry.fst_remove]
            simp only [moved, step]
            split <;> simp_all
          rw [erased]
          refine List.filter_congr fun entry _ => ?_
          rw [unregisters, decide_not, Bool.not_inj_iff]
          exact decide_eq_decide.2 eq_comm
      | register session identifier buffer =>
          exact absurd rfl (bystands.register session identifier buffer)
      | withdraw identifier buffer => exact absurd rfl (bystands.withdraw identifier buffer)
      | sweep task =>
          cases task with
          | list purpose => exact entries_of_registry_eq rfl fun _ => rfl
          | next left count purpose =>
              cases purpose with
              | demand => cases own
              | shutdown => cases bystands.calm
      | react | shut | identify | route | vet | confirm =>
          refine entries_of_registry_eq ?_ fun _ => rfl
          simp only [moved, step]
          split <;> rfl
      | _ => exact entries_of_registry_eq rfl fun _ => rfl
  | _ => exact entries_of_registry_eq rfl fun _ => rfl

theorem terminated_moved (terminated : connection.flusher.phase = .terminated)
    (move : ConnectionMove Callback Session) :
    (moved connection move).flusher.phase = .terminated := by
  cases move with
  | work task =>
      cases task with
      | flusher task =>
          have turn := Flusher.step_turn connection.flusher task
          rw [terminated] at turn
          exact turn.terminated
      | react | shut | unregister | identify | route | vet | register | confirm | withdraw =>
          simp only [moved, step]
          split <;> exact terminated
      | _ => exact terminated
  | _ => exact terminated

end Moved

namespace Course

variable {first connection : Connection Callback Session} {stage : Closing Session}
variable {moves : List (ConnectionMove Callback Session)}

/-- The sessions are listed as soon as the closing flag is raised. -/
theorem eq_of_listing (course : Course first moves connection stage) (listing : stage = .listing) :
    moves = [.work .shut] ∧ connection.registry = first.registry := by
  cases course with
  | shut alive =>
      refine ⟨rfl, ?_⟩
      simp [moved, step, alive]
  | next course advance =>
      cases advance with
      | pass _ _ calm bystands =>
          subst listing
          cases calm
      | _ => cases listing

theorem exists_account (course : Course first moves connection stage)
    (own : ∀ move ∈ moves, Own move) :
    ∃ turned waiting, Account first.registry.entries moves connection stage turned waiting := by
  -- At first all sessions wait; each turn moves the first one over to those whose turn has come.
  induction course with
  | shut alive =>
      refine ⟨[], first.registry.entries, rfl, nofun, ?_, rfl, nofun, ?_⟩
      · have same : (moved first (.work .shut)).registry = first.registry := by
          simp [moved, step, alive]
        rw [same]
        exact (List.filter_eq_self.2 fun _ _ => rfl).symm
      · intro entry _ turn member
        rw [List.mem_singleton.1 member]
        rfl
  | @next moves connection move stage later course advance ih =>
      obtain ⟨turned, waiting, account⟩ := ih fun move member =>
        own move (List.mem_append_left _ member)
      have unchanged := @entries_of_registry_eq _ _ connection
      cases advance with
      | list =>
          refine ⟨turned, waiting, account.still ?_ (unchanged rfl fun _ => rfl) rfl fun _ => rfl⟩
          obtain ⟨moves, registry⟩ := course.eq_of_listing rfl
          have all : connection.registry.entries = waiting := by
            rw [account.registered, moves]
            exact List.filter_eq_self.2 fun _ _ => rfl
          intro left listed
          rw [← Option.some.inj listed, Registry.identifiers, all]
      | skip identifier left count absent =>
          refine account.turn first.registry.distinct rfl ?_ rfl fun session => ?_
          · rw [← Registry.fst_remove]
            simp [moved, step, Registry.sweepStep, Registry.remove,
              Registry.lookup?_eq_none_iff.2 absent]
          · refine iff_of_false ?_ fun member => absent (List.mem_map_of_mem member)
            rintro ⟨⟩
      | remove identifier session left count member =>
          refine account.turn first.registry.distinct rfl ?_ rfl fun other => ?_
          · rw [← Registry.fst_remove]
            simp [moved, step, Registry.sweepStep, Registry.remove,
              Registry.lookup?_eq_some_iff.2 member]
          · constructor
            · rintro ⟨⟩
              exact member
            · exact fun here => congrArg some (session_unique member here)
      | close session left count =>
          exact ⟨turned, waiting, account.still account.left (unchanged rfl fun _ => rfl) rfl
            fun _ => rfl⟩
      | pass _ _ calm bystands =>
          obtain ⟨nothing, -, nobody⟩ := aside_of_not_tears bystands.calm
          have here := own move (List.mem_append_right _ (List.mem_singleton_self move))
          exact ⟨turned, waiting, account.still account.left (entries_of_bystands bystands here)
            (by rw [nothing]; rfl) nobody⟩
      | finish | count | halt | leave | left =>
          exact ⟨turned, waiting, account.still account.left (unchanged rfl fun _ => rfl) rfl
            fun _ => rfl⟩

theorem countP_closesEndpoint (course : Course first moves connection stage) :
    moves.countP closesEndpoint = stage.leavings := by
  induction course with
  | shut => rfl
  | next _ advance ih =>
      rw [List.countP_append, ih, List.countP_singleton]
      cases advance with
      | pass _ _ _ bystands => rw [(aside_of_not_tears bystands.calm).2.1]; rfl
      | _ => rfl

theorem terminated (course : Course first moves connection stage) (halted : stage.halted = true) :
    connection.flusher.phase = .terminated := by
  induction course with
  | shut => cases halted
  | @next moves connection move stage later _ advance ih =>
      cases advance with
      | halt => rfl
      | leave | left => exact ih rfl
      | pass => exact terminated_moved (ih halted) move
      | _ => cases halted

end Course

/-! ## Whole runs -/

section Run

variable {config : Config} {first middle last : Connection Callback Session}
variable {before during moves : List (ConnectionMove Callback Session)}
variable {rest stack : List (ConnectionFrame Callback Session)}

/-- The closing flag tells whether there was a call of closing. -/
theorem closed_of_run (opened : Connection.new config = .ok first)
    (run : Run (component Callback Session) first [] moves last stack) :
    last.closed = moves.any shuts := by
  refine run.invariant_of_step (fun moves connection _ => connection.closed = moves.any shuts) ?_ ?_
  · intro moves connection stack move next nextStack step closed
    obtain ⟨taken, put, rest, rfl, rfl, exchange⟩ := step.exchange
    obtain rfl := moved_of_exchange exchange
    rw [List.any_append, ← closed, List.any_cons, List.any_nil, Bool.or_false]
    cases shut : shuts move with
    | true =>
        unfold shuts at shut
        split at shut
        · rw [closed_moved_shut, Bool.or_true]
        · cases shut
    | false =>
        rw [Bool.or_false]
        cases already : connection.closed with
        | true => exact closed_moved already move
        | false =>
            rw [← Bool.not_eq_true]
            intro raised
            rw [eq_shut_of_moved already raised] at shut
            cases shut
  · rw [new_eq opened]
    rfl

theorem own_of_run (run : Run (component Callback Session) first [] moves last stack)
    (own : moves.any demands = false) : ∀ move ∈ moves, Own move := by
  have holds := run.invariant_of_step (fun moves _ stack =>
    moves.any demands = false → (∀ move ∈ moves, Own move) ∧ stack.any onDemand = false) ?_
    fun _ => ⟨fun _ member => (nomatch member), rfl⟩
  · exact (holds own).1
  · intro moves connection stack move next nextStack step before own
    rw [List.any_append, Bool.or_eq_false_iff] at own
    obtain ⟨earlier, none⟩ := before own.1
    obtain ⟨taken, put, rest, rfl, rfl, exchange⟩ := step.exchange
    rw [List.any_append, Bool.or_eq_false_iff] at none
    refine ⟨fun other member => ?_, ?_⟩
    · rcases List.mem_append.1 member with old | new
      · exact earlier other old
      · rw [List.mem_singleton.1 new]
        exact own_of_exchange exchange none.1
    · rw [List.any_append, none.2, Bool.or_false]
      exact exchange_onDemand exchange (by simpa using own.2) none.1

theorem course_over (opened : Connection.new config = .ok first)
    (reached : Run (component Callback Session) first [] before middle (.task .shut :: rest))
    (run : Run (component Callback Session) middle (.task .shut :: rest) during last stack)
    (alive : middle.closed = false) (unmarked : stack.filterMap mark = [])
    (gone : stack ≠ .task .shut :: rest) : Course middle during last .over := by
  rcases exists_course opened reached run alive with ⟨-, -, here⟩ | ⟨stage, course, shown⟩
  · exact absurd here gone
  · cases stage <;> first | exact course | exact absurd (unmarked.symm.trans shown) nofun

theorem Untouched.countP_closesEndpoint (untouched : Untouched moves stack) :
    moves.countP closesEndpoint = 0 :=
  List.countP_eq_zero.2 fun move member => by
    simp [(aside_of_not_tears (untouched.calm move member)).2.1]

/-- Whoever has left a connection with a terminated flusher has left nothing to be written. -/
theorem queue_eq_nil (opened : Connection.new config = .ok first)
    (run : Run (component Callback Session) first [] moves last [])
    (terminated : last.flusher.phase = .terminated) : last.flusher.queue = [] := by
  have sound := Flusher.Sound.of_run (flusher_run opened run)
  rcases sound.of_quiet with ⟨idle, empty, -⟩ | ⟨pending, -⟩ | ⟨-, empty⟩
  · exact empty
  · rw [terminated] at pending
    cases pending
  · exact empty

theorem eq_due_of_account {turned waiting : List (ConnectionId × Session)}
    {registry : Registry Session} {connection : Connection Callback Session}
    {stage : Closing Session}
    (account : Account registry.entries moves connection stage turned waiting)
    (done : stage.left? = some []) (alone : stage.removed? = none) :
    moves.filterMap swept = due registry moves ∧ connection.registry.entries = [] := by
  obtain ⟨whole, left, registered, closed, -, -⟩ := account
  obtain rfl : waiting = [] := List.map_eq_nil_iff.1 (left [] done).symm
  rw [List.append_nil] at whole
  rw [alone, Option.toList_none, List.append_nil] at closed
  exact ⟨by rw [closed, due, whole], registered⟩

end Run

end DatagramMux.Connection
