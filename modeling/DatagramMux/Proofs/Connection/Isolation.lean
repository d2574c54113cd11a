import DatagramMux.Proofs.Connection.Routing
import Mathlib.Data.List.Infix

/-!
# Sessions are isolated from each other

What a session and the factory are called for on behalf of one identifier depends only on the
datagrams with this identifier. Two readings are compared that agree on these; the other datagrams,
the failures and the calls of the read loop may differ in any way. The router is seen as a router
for one identifier, which takes no notice of the datagrams for others.

Sessions are objects, so those of two readings can only be compared by what they are like. A factory
that looks at nothing but a datagram and its sender determines what a session is like, but it may
create a new one each time.
-/

namespace DatagramMux.Connection

open Component

variable {Callback Session Kind : Type}

/-- What a factory makes of a datagram, if it looks at nothing else. -/
abbrev Outcome (Kind : Type) := SocketAddress → Bytes → Except MuxError (Option Kind)

/--
The factory looks at nothing but the datagram and its sender, and does not create one session for
two identifiers.
-/
structure Blind (localLength : Nat) (factory : Factory Session) (kind : Session → Kind)
    (outcome : Outcome Kind) : Prop where
  blind : ∀ past remote bytes,
    (factory (past ++ [.create remote bytes])).map (Option.map kind) = outcome remote bytes
  apart : ∀ past remote bytes later laterRemote laterBytes session,
    factory (past ++ [.create remote bytes]) = .ok (some session) →
      factory (past ++ [.create remote bytes] ++ later ++ [.create laterRemote laterBytes]) =
          .ok (some session) →
        ConnectionId.ofPacket? bytes localLength = ConnectionId.ofPacket? laterBytes localLength

/-- A call to a session, with what the session is like instead of the session itself. -/
def Call.map (kind : Session → Kind) : Call Session → Call Kind
  | .create remote bytes => .create remote bytes
  | .assign session identifier => .assign (kind session) identifier
  | .process session remote bytes => .process (kind session) remote bytes
  | .close session => .close (kind session)

/-! ## Calls and the identifier that they are about -/

section Traffic

variable (factory : Factory Session) (localLength : Nat) (identifier : ConnectionId)

/-- The session that the last of some calls has created for an identifier. -/
def made? (past : List (Call Session)) : Option Session :=
  match past.getLast?, factory past with
  | some (.create _ bytes), .ok (some session) =>
      if ConnectionId.ofPacket? bytes localLength = some identifier then some session else none
  | _, _ => none

/-- The sessions that were created for an identifier. -/
def madeFor (calls : List (Call Session)) : List Session :=
  calls.inits.filterMap (made? factory localLength identifier)

/-- Whether a call is to the factory for an identifier, or to a session created for it. -/
def concerns [DecidableEq Session] (calls : List (Call Session)) : Call Session → Bool
  | .create _ bytes => ConnectionId.ofPacket? bytes localLength = some identifier
  | .assign session _ | .process session _ _ | .close session =>
      session ∈ madeFor factory localLength identifier calls

/-- The calls to the factory for an identifier and to the sessions created for it, in order. -/
def traffic [DecidableEq Session] (kind : Session → Kind) (calls : List (Call Session)) :
    List (Call Kind) :=
  (calls.filter (concerns factory localLength identifier calls)).map (Call.map kind)

/-- The datagrams of a script that carry an identifier, with their senders. -/
def addressed (script : List Filling) : List (SocketAddress × Bytes) :=
  ((script.filterMap datagram?).filter fun datagram =>
    ConnectionId.ofPacket? datagram.bytes localLength = some identifier).map
      fun datagram => (datagram.remote, datagram.bytes)

end Traffic

variable {factory : Factory Session} {localLength : Nat} {identifier : ConnectionId}
variable {calls : List (Call Session)} {session : Session} {config : Config}

theorem mem_madeFor_iff :
    session ∈ madeFor factory localLength identifier calls ↔
      ∃ earlier remote bytes, earlier ++ [.create remote bytes] <+: calls ∧
        ConnectionId.ofPacket? bytes localLength = some identifier ∧
          factory (earlier ++ [.create remote bytes]) = .ok (some session) := by
  rw [madeFor, List.mem_filterMap]
  constructor
  · rintro ⟨past, initial, made⟩
    unfold made? at made
    split at made
    · rename_i remote bytes created last answer
      split at made
      · rename_i read
        obtain rfl := Option.some.inj made
        obtain ⟨earlier, rfl⟩ := List.getLast?_eq_some_iff.1 last
        exact ⟨earlier, remote, bytes, (List.mem_inits _ _).1 initial, read, answer⟩
      · cases made
    · cases made
  · rintro ⟨earlier, remote, bytes, initial, read, answer⟩
    refine ⟨_, (List.mem_inits _ _).2 initial, ?_⟩
    rw [made?, List.getLast?_concat, answer]
    exact if_pos read

theorem mem_madeFor_append {further : List (Call Session)}
    (made : session ∈ madeFor factory localLength identifier calls) :
    session ∈ madeFor factory localLength identifier (calls ++ further) := by
  obtain ⟨earlier, remote, bytes, initial, read, answer⟩ := mem_madeFor_iff.1 made
  have longer := initial.trans (List.prefix_append calls further)
  exact mem_madeFor_iff.2 ⟨earlier, remote, bytes, longer, read, answer⟩

section Blind

variable {kind : Session → Kind} {outcome : Outcome Kind}
variable (blind : Blind localLength factory kind outcome)
include blind

/-- Two calls to the factory that create the same session are for the same identifier. -/
theorem Blind.read_eq {past pastToo : List (Call Session)} {remote remoteToo : SocketAddress}
    {bytes bytesToo : Bytes}
    (initial : past ++ [.create remote bytes] <+: pastToo ++ [.create remoteToo bytesToo])
    (answer : factory (past ++ [.create remote bytes]) = .ok (some session))
    (answerToo : factory (pastToo ++ [.create remoteToo bytesToo]) = .ok (some session)) :
    ConnectionId.ofPacket? bytes localLength = ConnectionId.ofPacket? bytesToo localLength := by
  rcases List.prefix_concat_iff.1 initial with same | ⟨later, rfl⟩
  · have call := (List.append_inj' same rfl).2
    cases call
    rfl
  · exact blind.apart past remote bytes later remoteToo bytesToo session answer answerToo

/-- A session was created for one identifier only. -/
theorem Blind.identifier_eq {other : ConnectionId}
    (made : session ∈ madeFor factory localLength identifier calls)
    (madeToo : session ∈ madeFor factory localLength other calls) : identifier = other := by
  obtain ⟨past, remote, bytes, initial, read, answer⟩ := mem_madeFor_iff.1 made
  obtain ⟨pastToo, remoteToo, bytesToo, initialToo, readToo, answerToo⟩ := mem_madeFor_iff.1 madeToo
  have same : ConnectionId.ofPacket? bytes localLength =
      ConnectionId.ofPacket? bytesToo localLength := by
    rcases List.prefix_or_prefix_of_prefix initial initialToo with first | second
    · exact blind.read_eq first answer answerToo
    · exact (blind.read_eq second answerToo answer).symm
  rw [read, readToo] at same
  exact Option.some.inj same

end Blind

/-! ## What a router does for one identifier -/

/-- The identifier on behalf of which a call is made. -/
def topic (localLength : Nat) : Call Session → Option ConnectionId
  | .create _ bytes | .process _ _ bytes => ConnectionId.ofPacket? bytes localLength
  | .assign _ identifier => some identifier
  | .close _ => none

def Call.session? : Call Session → Option Session
  | .create _ _ => none
  | .assign session _ | .process session _ _ | .close session => some session

theorem lookup?_of_insert? {registry extended : Registry Session}
    (inserted : registry.insert? identifier session = some extended) (other : ConnectionId) :
    extended.lookup? other = if other = identifier then some session else registry.lookup? other := by
  have free : identifier ∉ registry.identifiers := by
    intro taken
    rw [Registry.insert?_eq_none_iff.2 taken] at inserted
    cases inserted
  split
  · rename_i same
    rw [Registry.lookup?_eq_some_iff, Registry.entries_of_insert? inserted, same]
    exact List.mem_append_right _ (List.mem_singleton_self _)
  · rename_i different
    rw [Registry.lookup?, Registry.entries_of_insert? inserted, List.find?_append, Registry.lookup?]
    have absent : [(identifier, session)].find? (fun entry => entry.1 = other) = none := by
      simpa using fun same => different same.symm
    rw [absent, Option.or_none]

/-- Sessions are registered, and called, only under the identifier that they were created for. -/
structure Attributed (factory : Factory Session) (localLength : Nat) (router : Router Session) :
    Prop where
  registered : ∀ identifier session, router.registry.lookup? identifier = some session →
    session ∈ madeFor factory localLength identifier router.calls
  called : ∀ call ∈ router.calls, ∀ session ∈ call.session?,
    ∃ identifier, topic localLength call = some identifier ∧
      session ∈ madeFor factory localLength identifier router.calls

namespace Attributed

variable {router : Router Session}

theorem say {call : Call Session} (attributed : Attributed factory localLength router)
    (own : ∀ session ∈ call.session?, ∃ identifier, topic localLength call = some identifier ∧
      session ∈ madeFor factory localLength identifier (router.calls ++ [call])) :
    Attributed factory localLength (router.say call) := by
  obtain ⟨registered, called⟩ := attributed
  refine ⟨fun identifier session found => ?_, fun other member session mentioned => ?_⟩
  · exact mem_madeFor_append (registered identifier session found)
  · rcases List.mem_append.1 member with before | now
    · obtain ⟨identifier, about, made⟩ := called other before session mentioned
      exact ⟨identifier, about, mem_madeFor_append made⟩
    · obtain rfl := List.mem_singleton.1 now
      exact own session mentioned

theorem enroll (attributed : Attributed factory localLength router)
    (made : session ∈ madeFor factory localLength identifier router.calls) :
    Attributed factory localLength (router.enroll identifier session) := by
  obtain ⟨registered, called⟩ := attributed
  unfold Router.enroll
  split
  · rename_i registry inserted
    refine ⟨fun other found lookup => ?_, called⟩
    change registry.lookup? other = some found at lookup
    rw [lookup?_of_insert? inserted] at lookup
    split at lookup
    · rename_i same
      obtain rfl := Option.some.inj lookup
      exact same ▸ made
    · exact registered other found lookup
  · exact ⟨registered, called⟩

theorem ask {remote : SocketAddress} {bytes : Bytes}
    (attributed : Attributed factory localLength router)
    (read : ConnectionId.ofPacket? bytes localLength = some identifier) :
    Attributed factory localLength (router.ask factory identifier remote bytes) := by
  have asked : Attributed factory localLength (router.say (.create remote bytes)) :=
    attributed.say fun _ mentioned => nomatch mentioned
  change Attributed factory localLength ((router.say (.create remote bytes)).heed identifier
    (factory (router.say (.create remote bytes)).calls))
  cases answer : factory (router.say (.create remote bytes)).calls with
  | error error => exact asked
  | ok session? =>
      cases session? with
      | none => exact ⟨asked.registered, asked.called⟩
      | some session =>
          have made : session ∈ madeFor factory localLength identifier
              (router.say (.create remote bytes)).calls :=
            mem_madeFor_iff.2 ⟨router.calls, remote, bytes, List.prefix_rfl, read, answer⟩
          have assigned : Attributed factory localLength
              ((router.say (.create remote bytes)).say (.assign session identifier)) := by
            refine asked.say fun other mentioned => ?_
            obtain rfl := Option.some.inj mentioned
            exact ⟨identifier, rfl, mem_madeFor_append made⟩
          exact assigned.enroll (mem_madeFor_append made)

theorem route (attributed : Attributed factory localLength router) (datagram : Datagram) :
    Attributed factory localLength (router.route localLength factory datagram) := by
  obtain ⟨registered, called⟩ := attributed
  unfold Router.route Router.dispatch
  split
  · exact ⟨registered, called⟩
  · rename_i identifier read
    split
    · rename_i session found
      refine say ⟨registered, called⟩ fun other mentioned => ?_
      obtain rfl := Option.some.inj mentioned
      exact ⟨identifier, read, mem_madeFor_append (registered identifier session found)⟩
    · exact ask ⟨registered, called⟩ read

theorem routeAll (attributed : Attributed factory localLength router)
    (datagrams : List Datagram) :
    Attributed factory localLength (datagrams.foldl (Router.route localLength factory) router) := by
  induction datagrams generalizing router with
  | nil => exact attributed
  | cons datagram datagrams ih => exact ih (attributed.route datagram)

/-- Every call concerns the identifier on behalf of which it is made, and no other. -/
theorem concerns_eq [DecidableEq Session] {kind : Session → Kind} {outcome : Outcome Kind}
    (attributed : Attributed factory localLength router)
    (blind : Blind localLength factory kind outcome)
    {call : Call Session} (member : call ∈ router.calls) :
    concerns factory localLength identifier router.calls call =
      decide (topic localLength call = some identifier) := by
  have about (session : Session) (mentioned : session ∈ call.session?) :
      session ∈ madeFor factory localLength identifier router.calls ↔
        topic localLength call = some identifier := by
    obtain ⟨own, topical, made⟩ := attributed.called call member session mentioned
    constructor
    · intro madeToo
      rw [topical, blind.identifier_eq made madeToo]
    · intro same
      obtain rfl := Option.some.inj (topical.symm.trans same)
      exact made
  cases call with
  | create remote bytes => rfl
  | assign session own => exact decide_eq_decide.2 (about session rfl)
  | process session remote bytes => exact decide_eq_decide.2 (about session rfl)
  | close session => exact decide_eq_decide.2 (about session rfl)

end Attributed

/-! ## A router for one identifier -/

/-- What a router for one identifier remembers. -/
structure Solo (Kind : Type) where
  /-- What its session is like, if it has one. -/
  session? : Option Kind := none
  calls : List (Call Kind) := []

namespace Solo

def say (solo : Solo Kind) (call : Call Kind) : Solo Kind :=
  { solo with calls := solo.calls ++ [call] }

/-- Deals with a datagram that carries the identifier. -/
def route (outcome : Outcome Kind) (identifier : ConnectionId) (solo : Solo Kind)
    (parcel : SocketAddress × Bytes) : Solo Kind :=
  match solo.session? with
  | some kind => solo.say (.process kind parcel.1 parcel.2)
  | none =>
      let asked := solo.say (.create parcel.1 parcel.2)
      match outcome parcel.1 parcel.2 with
      | .error _ | .ok none => asked
      | .ok (some kind) => { asked.say (.assign kind identifier) with session? := some kind }

end Solo

/-- A router as it looks to those who only care for one identifier. -/
def view (kind : Session → Kind) (localLength : Nat) (identifier : ConnectionId)
    (router : Router Session) : Solo Kind where
  session? := (router.registry.lookup? identifier).map kind
  calls := (router.calls.filter fun call => topic localLength call = some identifier).map
    (Call.map kind)

section View

variable {kind : Session → Kind} {outcome : Outcome Kind} {router : Router Session}
variable {remote : SocketAddress} {bytes : Bytes}

theorem view_say {call : Call Session} (about : topic localLength call = some identifier) :
    view kind localLength identifier (router.say call) =
      (view kind localLength identifier router).say (call.map kind) := by
  simp [view, Router.say, Solo.say, about]

theorem view_say_of_ne {call : Call Session} (other : topic localLength call ≠ some identifier) :
    view kind localLength identifier (router.say call) = view kind localLength identifier router := by
  simp [view, Router.say, other]

theorem view_enroll (free : router.registry.lookup? identifier = none) :
    view kind localLength identifier (router.enroll identifier session) =
      { view kind localLength identifier router with session? := some (kind session) } := by
  unfold Router.enroll
  split
  · rename_i registry inserted
    have found := lookup?_of_insert? inserted identifier
    rw [if_pos rfl] at found
    rw [view, view]
    simp only [found, Option.map_some]
  · rename_i taken
    rw [Registry.lookup?_eq_none_iff] at free
    exact absurd (Registry.insert?_eq_none_iff.1 taken) free

theorem view_enroll_of_ne {other : ConnectionId} (different : identifier ≠ other) :
    view kind localLength identifier (router.enroll other session) =
      view kind localLength identifier router := by
  unfold Router.enroll
  split
  · rename_i registry inserted
    have found := lookup?_of_insert? inserted identifier
    rw [if_neg different] at found
    rw [view, view]
    simp only [found]
  · rfl

theorem view_ask (blind : Blind localLength factory kind outcome)
    (read : ConnectionId.ofPacket? bytes localLength = some identifier)
    (free : router.registry.lookup? identifier = none) :
    view kind localLength identifier (router.ask factory identifier remote bytes) =
      (view kind localLength identifier router).route outcome identifier (remote, bytes) := by
  have asked : view kind localLength identifier (router.say (.create remote bytes)) = _ :=
    view_say read
  have bare : (view kind localLength identifier router).session? = none := by
    rw [view, free]
    rfl
  have determined := blind.blind router.calls remote bytes
  change view kind localLength identifier ((router.say (.create remote bytes)).heed identifier
    (factory (router.calls ++ [.create remote bytes]))) = _
  unfold Solo.route
  rw [bare]
  cases answer : factory (router.calls ++ [.create remote bytes]) with
  | error error =>
      rw [answer] at determined
      rw [← determined]
      exact asked
  | ok session? =>
      rw [answer] at determined
      rw [← determined]
      cases session? with
      | none => exact asked
      | some session =>
          have vacant : ((router.say (.create remote bytes)).say
              (.assign session identifier)).registry.lookup? identifier = none := free
          change view kind localLength identifier (((router.say (.create remote bytes)).say
            (.assign session identifier)).enroll identifier session) = _
          rw [view_enroll vacant, view_say rfl, asked]
          rfl

theorem view_ask_of_ne {other : ConnectionId} (different : identifier ≠ other)
    (read : ConnectionId.ofPacket? bytes localLength = some other) :
    view kind localLength identifier (router.ask factory other remote bytes) =
      view kind localLength identifier router := by
  have apart : topic localLength (.create remote bytes : Call Session) ≠ some identifier := by
    rw [topic, read]
    exact fun same => different (Option.some.inj same).symm
  have asked : view kind localLength identifier (router.say (.create remote bytes)) =
      view kind localLength identifier router := view_say_of_ne apart
  rw [← asked]
  change view kind localLength identifier ((router.say (.create remote bytes)).heed other
    (factory (router.say (.create remote bytes)).calls)) = _
  cases factory (router.say (.create remote bytes)).calls with
  | error error => rfl
  | ok session? =>
      cases session? with
      | none => rfl
      | some session =>
          have assigned : topic localLength (.assign session other : Call Session) ≠
              some identifier := fun same => different (Option.some.inj same).symm
          exact (view_enroll_of_ne different).trans (view_say_of_ne assigned)

/-- A router deals with the datagrams for an identifier as if there were no others. -/
theorem view_route (blind : Blind localLength factory kind outcome) (datagram : Datagram) :
    view kind localLength identifier (router.route localLength factory datagram) =
      if ConnectionId.ofPacket? datagram.bytes localLength = some identifier then
        (view kind localLength identifier router).route outcome identifier
          (datagram.remote, datagram.bytes)
      else view kind localLength identifier router := by
  unfold Router.route Router.dispatch
  split
  · rename_i unread
    rw [unread, if_neg nofun]
    rfl
  · rename_i other read
    by_cases same : other = identifier
    · subst same
      rw [if_pos read]
      split
      · rename_i session found
        have present : (view kind localLength other router).session? = some (kind session) := by
          change (router.registry.lookup? other).map kind = _
          rw [show router.registry.lookup? other = some session from found]
          rfl
        unfold Solo.route
        rw [present]
        have about : topic localLength (.process session datagram.remote datagram.bytes) =
            some other := read
        exact view_say about
      · rename_i free
        exact view_ask blind read free
    · have different : identifier ≠ other := fun equal => same equal.symm
      rw [read, if_neg fun equal => same (Option.some.inj equal)]
      split
      · rename_i session found
        refine view_say_of_ne ?_
        rw [topic, read]
        exact fun equal => same (Option.some.inj equal)
      · exact view_ask_of_ne different read

theorem view_routeAll (blind : Blind localLength factory kind outcome) (datagrams : List Datagram) :
    view kind localLength identifier (datagrams.foldl (Router.route localLength factory) router) =
      ((datagrams.filter fun datagram =>
        ConnectionId.ofPacket? datagram.bytes localLength = some identifier).map
          fun datagram => (datagram.remote, datagram.bytes)).foldl
            (Solo.route outcome identifier) (view kind localLength identifier router) := by
  induction datagrams generalizing router with
  | nil => rfl
  | cons datagram datagrams ih =>
      rw [List.foldl_cons, ih, view_route blind, List.filter_cons]
      by_cases read : ConnectionId.ofPacket? datagram.bytes localLength = some identifier
      · rw [if_pos read, if_pos (decide_eq_true read), List.map_cons, List.foldl_cons]
      · rw [if_neg read, if_neg (by simpa using read)]

end View

/-! ## Whole readings -/

theorem open_of_new {config : Config} {first : Connection Callback Session}
    (fresh : new config = .ok first) : first.closed = false ∧ first.registry = .empty := by
  unfold new at fresh
  split at fresh
  · cases fresh
    exact ⟨rfl, rfl⟩
  · cases fresh

section Reading

variable [DecidableEq Session] {kind : Session → Kind} {outcome : Outcome Kind}
variable {first last : Connection Callback Session}

/-- What concerns an identifier is what a router for this identifier alone would do. -/
theorem traffic_of_reading {collaborators : Collaborators Callback Session}
    (blind : Blind first.config.localIdLength.toNat collaborators.factory kind outcome)
    (fresh : new config = .ok first)
    {moves : List (ConnectionMove Callback Session)} {script : List Filling}
    (reading : Reading collaborators first moves last []) (exhausts : Exhausts moves script) :
    traffic collaborators.factory first.config.localIdLength.toNat identifier kind
        (moves.filterMap call?) =
      ((addressed first.config.localIdLength.toNat identifier script).foldl
        (Solo.route outcome identifier) {}).calls := by
  obtain ⟨alive, empty⟩ := open_of_new fresh
  have routed := (reading_refines_router collaborators alive script).2 moves last reading exhausts
  have attributed : Attributed collaborators.factory first.config.localIdLength.toNat
      (router first []) := by
    refine ⟨fun other session found => ?_, nofun⟩
    change first.registry.lookup? other = some session at found
    rw [empty] at found
    cases found
  have whole := attributed.routeAll (script.filterMap datagram?)
  have viewed : view kind first.config.localIdLength.toNat identifier
      ((script.filterMap datagram?).foldl (Router.route first.config.localIdLength.toNat
        collaborators.factory) (router first [])) = _ :=
    view_routeAll blind (script.filterMap datagram?)
  have bare : view kind first.config.localIdLength.toNat identifier (router first []) = {} := by
    change ({ session? := (first.registry.lookup? identifier).map kind, calls := [] } : Solo Kind) = _
    rw [empty]
    rfl
  rw [← routed] at whole viewed
  rw [bare] at viewed
  have kept : (moves.filterMap call?).filter (concerns collaborators.factory
      first.config.localIdLength.toNat identifier (moves.filterMap call?)) =
        (moves.filterMap call?).filter fun call =>
          topic first.config.localIdLength.toNat call = some identifier :=
    List.filter_congr fun call member => whole.concerns_eq blind member
  rw [addressed, ← viewed, traffic, kept]
  rfl

/--
Two fresh connections with the same configuration read two scripts until nothing is left, each with
collaborators that do not call back and a factory that looks at nothing but the datagram and its
sender; what else the collaborators answer does not matter. If the scripts agree on the datagrams
for an identifier, then the factory is called for this identifier, and the sessions created for it
are called, in the same way in both readings.
-/
theorem session_isolation (one other : Collaborators Callback Session)
    (oneBlind : Blind first.config.localIdLength.toNat one.factory kind outcome)
    (otherBlind : Blind first.config.localIdLength.toNat other.factory kind outcome)
    (fresh : new config = .ok first) (identifier : ConnectionId) (script scriptToo : List Filling)
    (same : addressed first.config.localIdLength.toNat identifier script =
      addressed first.config.localIdLength.toNat identifier scriptToo) :
    (∃ moves last, Reading one first moves last [] ∧ Exhausts moves script) ∧
      (∃ moves last, Reading other first moves last [] ∧ Exhausts moves scriptToo) ∧
        ∀ moves last movesToo lastToo,
          Reading one first moves last [] → Exhausts moves script →
            Reading other first movesToo lastToo [] → Exhausts movesToo scriptToo →
              traffic one.factory first.config.localIdLength.toNat identifier kind
                  (moves.filterMap call?) =
                traffic other.factory first.config.localIdLength.toNat identifier kind
                  (movesToo.filterMap call?) := by
  obtain ⟨alive, -⟩ := open_of_new fresh
  refine ⟨exists_reading alive script .start, exists_reading alive scriptToo .start, ?_⟩
  intro moves last movesToo lastToo reading exhausts readingToo exhaustsToo
  rw [traffic_of_reading oneBlind fresh reading exhausts,
    traffic_of_reading otherBlind fresh readingToo exhaustsToo, same]

end Reading

/-- Collaborators whose sessions process nothing without an error. -/
def failing : Collaborators Nat Nat where
  factory := obliging.factory
  others _
    | .process _ _ _ => .error .closed
    | request => answers .empty request

theorem blind_obliging (localLength : Nat) :
    Blind localLength obliging.factory (fun _ => ()) fun _ _ => .ok (some ()) where
  blind _ _ _ := rfl
  apart past remote bytes later laterRemote laterBytes session answer again := by
    -- The sessions are numbered, so no session is created twice.
    have number := Option.some.inj (Except.ok.inj answer)
    have numberToo := Option.some.inj (Except.ok.inj again)
    simp only [List.length_append, List.length_singleton] at number numberToo
    omega

/-- Two datagrams for one identifier. -/
def quietScript : List Filling := List.replicate 2 (arriving (List.replicate 17 7))

/-- The same two among datagrams for another identifier and for none, and failures. -/
def noisyScript : List Filling :=
  [arriving (7 :: List.replicate 16 9), arriving (List.replicate 17 7),
    (.empty 1500, .error (.system .timedOut)), arriving [], arriving (7 :: List.replicate 16 9),
    (.empty 1500, .ok .empty), arriving (List.replicate 17 7)]

theorem isolated_in_noisyScript :
    ∃ moves last movesToo lastToo,
      Reading obliging {} moves last [] ∧ Exhausts moves quietScript ∧
        Reading failing {} movesToo lastToo [] ∧ Exhausts movesToo noisyScript ∧
          traffic obliging.factory 16 ⟨List.replicate 16 7⟩ (fun _ => ()) (moves.filterMap call?) =
            traffic failing.factory 16 ⟨List.replicate 16 7⟩ (fun _ => ())
              (movesToo.filterMap call?) := by
  have fresh : new {} = .ok ({} : Connection Nat Nat) := rfl
  obtain ⟨⟨moves, last, reading, exhausts⟩, ⟨movesToo, lastToo, readingToo, exhaustsToo⟩, isolated⟩ :=
    session_isolation obliging failing (blind_obliging _) (blind_obliging _) fresh
      ⟨List.replicate 16 7⟩ quietScript noisyScript (by decide)
  exact ⟨moves, last, movesToo, lastToo, reading, exhausts, readingToo, exhaustsToo,
    isolated moves last movesToo lastToo reading exhausts readingToo exhaustsToo⟩

end DatagramMux.Connection
