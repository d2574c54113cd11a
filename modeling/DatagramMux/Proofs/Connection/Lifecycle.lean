import DatagramMux.Proofs.Connection.Acts
import DatagramMux.Proofs.Machine.Script

/-!
# Every session has a life

A session that is between two stages of its life is on top of the stack, and one that is registered
is in the registry. Since nothing happens between the frames that deal with a new session, every move
of a connection is part of the life of every session.
-/

namespace DatagramMux.Connection

open Component

variable {Callback Session : Type}

/-! ## Stages and frames -/

/-- The stage that a stage shows itself as on top of the stack. -/
def Stage.shown (stage : Stage) : Option Stage := if stage.urgent then some stage else none

/-- The identifiers that are being learnt in a stage. -/
def Stage.learning : Stage → List ConnectionId
  | .informing identifier => [identifier]
  | _ => []

theorem session_unique {registry : Registry Session} {identifier : ConnectionId}
    {session other : Session} (member : (identifier, session) ∈ registry.entries)
    (otherMember : (identifier, other) ∈ registry.entries) : session = other := by
  rw [← Registry.lookup?_eq_some_iff] at member otherMember
  exact Option.some.inj (member.symm.trans otherMember)

theorem mem_erase_iff {registry : Registry Session} {identifier other : ConnectionId}
    {session : Session} :
    (other, session) ∈ (registry.erase identifier).entries ↔
      (other, session) ∈ registry.entries ∧ other ≠ identifier := by
  simp [Registry.erase, List.mem_filter]

theorem mem_erase_iff_of_not_mem {registry : Registry Session} {identifier other : ConnectionId}
    {session : Session} (apart : (identifier, session) ∉ registry.entries) :
    (other, session) ∈ (registry.erase identifier).entries ↔
      (other, session) ∈ registry.entries := by
  rw [mem_erase_iff]
  exact and_iff_left_of_imp fun here equal => apart (equal ▸ here)

section Tied

variable [DecidableEq Session]

/-- The stage in which a frame shows a session. -/
def shows (session : Session) : ConnectionFrame Callback Session → Option Stage
  | .call (.assign other identifier _) => if other = session then some (.created identifier) else none
  | .task (.vet other identifier _) => if other = session then some (.informed identifier) else none
  | .task (.register other identifier _) =>
      if other = session then some (.admitted identifier) else none
  | .task (.countRefused other _) => if other = session then some .colliding else none
  | .call (.discard other _) => if other = session then some .rejected else none
  | .call (.sweep (.close other _ _ _)) => if other = session then some .removed else none
  | _ => none

/-- The identifier that a session learns in a frame. -/
def learns (session : Session) : ConnectionFrame Callback Session → Option ConnectionId
  | .inside (.assign other identifier _) => if other = session then some identifier else none
  | _ => none

/-- The stage of a session agrees with the stack and the registry. -/
structure Tied (session : Session) (stage : Stage) (connection : Connection Callback Session)
    (stack : List (ConnectionFrame Callback Session)) : Prop where
  shown : stack.head?.bind (shows session) = stage.shown
  learning : stack.filterMap (learns session) = stage.learning
  registered : ∀ identifier,
    (identifier, session) ∈ connection.registry.entries ↔ stage = .registered identifier

theorem shows_of_aside {session : Session} {frame : ConnectionFrame Callback Session}
    (aside : Aside frame) : shows session frame = none ∧ learns session frame = none := by
  cases frame with
  | task task => cases task <;> first | exact ⟨rfl, rfl⟩ | cases aside
  | call request =>
      cases request with
      | sweep request => cases request <;> first | exact ⟨rfl, rfl⟩ | cases aside
      | _ => first | exact ⟨rfl, rfl⟩ | cases aside
  | inside request => cases request <;> first | exact ⟨rfl, rfl⟩ | cases aside

theorem shows_of_lies {session : Session} {frame : ConnectionFrame Callback Session}
    (below : lies frame = true) : shows session frame = none := by
  cases frame with
  | task task => cases task <;> first | rfl | cases below
  | call request => cases request <;> first | rfl | cases below
  | inside request => rfl

theorem Stage.eq_of_shown {stage other : Stage} (shown : some other = stage.shown) :
    stage = other := by
  unfold Stage.shown at shown
  split at shown
  · exact (Option.some.inj shown).symm
  · cases shown

theorem Stage.not_urgent {stage : Stage} (shown : none = stage.shown) : stage.urgent = false := by
  unfold Stage.shown at shown
  split at shown
  · cases shown
  · rename_i calm
    simpa using calm

namespace Tied

variable {session : Session} {stage later : Stage} {connection next : Connection Callback Session}
variable {frames taken put rest : List (ConnectionFrame Callback Session)}
variable {move : ConnectionMove Callback Session}

theorem append_iff (below : ∀ frame ∈ rest, lies frame = true) :
    Tied session stage connection (frames ++ rest) ↔
      frames.head?.bind (shows session) = stage.shown ∧
        frames.filterMap (learns session) ++ rest.filterMap (learns session) = stage.learning ∧
          ∀ identifier, (identifier, session) ∈ connection.registry.entries ↔
            stage = .registered identifier := by
  have top : (frames ++ rest).head?.bind (shows session) = frames.head?.bind (shows session) := by
    rcases frames with - | ⟨frame, frames⟩
    · rcases rest with - | ⟨frame, rest⟩
      · rfl
      · exact shows_of_lies (below frame List.mem_cons_self)
    · rfl
  constructor
  · rintro ⟨shown, learning, registered⟩
    exact ⟨top ▸ shown, List.filterMap_append ▸ learning, registered⟩
  · rintro ⟨shown, learning, registered⟩
    exact ⟨top.trans shown, List.filterMap_append.trans learning, registered⟩

/-- A move that has nothing to do with a session leaves it in its stage. -/
theorem pass (below : ∀ frame ∈ rest, lies frame = true)
    (showsTaken : taken.head?.bind (shows session) = none)
    (showsPut : put.head?.bind (shows session) = none)
    (learnsPut : put.filterMap (learns session) = taken.filterMap (learns session))
    (entries : ∀ identifier, (identifier, session) ∈ next.registry.entries ↔
      (identifier, session) ∈ connection.registry.entries)
    (aside : ¬Concerns session stage move)
    (tied : Tied session stage connection (taken ++ rest)) :
    ∃ later, Passage connection session move stage later ∧
      Tied session later next (put ++ rest) := by
  obtain ⟨shown, learning, registered⟩ := (append_iff below).1 tied
  rw [showsTaken] at shown
  refine ⟨stage, .pass move stage (Stage.not_urgent shown) aside, (append_iff below).2 ?_⟩
  refine ⟨showsPut.trans shown, ?_, fun identifier => ?_⟩
  · rw [learnsPut]
    exact learning
  · exact (entries identifier).trans (registered identifier)

variable {frame other : ConnectionFrame Callback Session}

theorem cons_iff (below : ∀ frame ∈ rest, lies frame = true) :
    Tied session stage connection (frame :: rest) ↔
      shows session frame = stage.shown ∧
        (learns session frame).toList ++ rest.filterMap (learns session) = stage.learning ∧
          ∀ identifier, (identifier, session) ∈ connection.registry.entries ↔
            stage = .registered identifier := by
  have single : [frame].filterMap (learns session) = (learns session frame).toList := by
    rw [List.filterMap_cons]
    cases learns session frame <;> rfl
  rw [← single, ← List.singleton_append]
  exact append_iff below

/-- A move about another session leaves a session in its stage. -/
theorem pass_cons (tied : Tied session stage connection (frame :: rest))
    (below : ∀ frame ∈ rest, lies frame = true)
    (showsTaken : shows session frame = none) (showsPut : shows session other = none)
    (learnsPut : learns session other = learns session frame)
    (entries : ∀ identifier, (identifier, session) ∈ next.registry.entries ↔
      (identifier, session) ∈ connection.registry.entries)
    (aside : ¬Concerns session stage move) :
    ∃ later, Passage connection session move stage later ∧
      Tied session later next (other :: rest) := by
  obtain ⟨shown, learning, registered⟩ := (cons_iff below).1 tied
  rw [showsTaken] at shown
  refine ⟨stage, .pass move stage (Stage.not_urgent shown) aside, (cons_iff below).2 ?_⟩
  refine ⟨showsPut.trans shown, ?_, fun identifier => ?_⟩
  · rw [learnsPut]
    exact learning
  · exact (entries identifier).trans (registered identifier)

theorem lead (below : ∀ frame ∈ rest, lies frame = true)
    (passage : Passage connection session move stage later)
    (shown : shows session frame = later.shown)
    (learning : (learns session frame).toList ++ rest.filterMap (learns session) = later.learning)
    (registered : ∀ identifier, (identifier, session) ∈ next.registry.entries ↔
      later = .registered identifier) :
    ∃ later, Passage connection session move stage later ∧
      Tied session later next (frame :: rest) :=
  ⟨later, passage, (cons_iff below).2 ⟨shown, learning, registered⟩⟩

/-- A move about the session that the top frame shows leads it from one stage to the next. -/
theorem advance (tied : Tied session stage connection (frame :: rest))
    (below : ∀ frame ∈ rest, lies frame = true) (subject : Session) (here later : Stage)
    (showsTaken : shows session frame = if subject = session then some here else none)
    (showsPut : shows session other = if subject = session then later.shown else none)
    (learnsPut : learns session other = learns session frame)
    (learning : later.learning = here.learning)
    (registry : next.registry = connection.registry)
    (unregistered : ∀ identifier, here ≠ .registered identifier ∧ later ≠ .registered identifier)
    (passage : Passage connection subject move here later)
    (aside : subject ≠ session → ¬Concerns session stage move) :
    ∃ later, Passage connection session move stage later ∧
      Tied session later next (other :: rest) := by
  by_cases same : subject = session
  · subst same
    obtain ⟨shown, learningHere, registered⟩ := (cons_iff below).1 tied
    rw [showsTaken, if_pos rfl] at shown
    obtain rfl := Stage.eq_of_shown shown
    refine lead below passage (showsPut.trans (if_pos rfl)) ?_ fun identifier => ?_
    · rw [learnsPut, learning]
      exact learningHere
    · obtain ⟨notHere, notLater⟩ := unregistered identifier
      rw [registry, registered identifier]
      exact iff_of_false notHere notLater
  · refine tied.pass_cons below (showsTaken.trans (if_neg same)) (showsPut.trans (if_neg same))
      learnsPut (fun identifier => by rw [registry]) (aside same)

/-- A move that takes a session out of the registry. -/
theorem take (tied : Tied session stage connection (frame :: rest))
    (below : ∀ frame ∈ rest, lies frame = true) {subject : Session} {identifier : ConnectionId}
    (member : (identifier, subject) ∈ connection.registry.entries)
    (registry : next.registry = connection.registry.erase identifier) (later : Stage)
    (showsTaken : shows session frame = none)
    (showsPut : shows session other = if subject = session then later.shown else none)
    (learnsPut : learns session other = learns session frame) (learning : later.learning = [])
    (unregistered : ∀ identifier, later ≠ .registered identifier)
    (passage : Passage connection subject move (.registered identifier) later)
    (aside : stage ≠ .registered identifier → ¬Concerns session stage move) :
    ∃ later, Passage connection session move stage later ∧
      Tied session later next (other :: rest) := by
  obtain ⟨-, learningHere, registered⟩ := (cons_iff below).1 tied
  by_cases same : subject = session
  · subst same
    obtain rfl := (registered identifier).1 member
    refine lead below passage (showsPut.trans (if_pos rfl)) ?_ fun another => ?_
    · rw [learnsPut, learning]
      exact learningHere
    · rw [registry, mem_erase_iff, registered another]
      apply iff_of_false _ (unregistered another)
      rintro ⟨here, different⟩
      exact different (Stage.registered.inj here).symm
  · have apart : (identifier, session) ∉ connection.registry.entries :=
      fun here => same (session_unique member here)
    refine tied.pass_cons below showsTaken (showsPut.trans (if_neg same)) learnsPut
      (fun another => ?_) (aside fun here => apart ((registered identifier).2 here))
    rw [registry, mem_erase_iff_of_not_mem apart]

end Tied

end Tied

/-- Every move is part of the life of every session. -/
theorem Act.passage [DecidableEq Session] {connection next : Connection Callback Session}
    {move : ConnectionMove Callback Session}
    {taken put rest : List (ConnectionFrame Callback Session)} {session : Session} {stage : Stage}
    (act : Act connection move taken next put)
    (fresh : born move = some session → stage = .unborn)
    (below : ∀ frame ∈ rest, lies frame = true)
    (tied : Tied session stage connection (taken ++ rest)) :
    ∃ later, Passage connection session move stage later ∧
      Tied session later next (put ++ rest) := by
  cases act with
  | plain _ _ _ _ never takenAside putAside registry =>
      have silent {frames : List (ConnectionFrame Callback Session)}
          (aside : ∀ frame ∈ frames, Aside frame) :
          frames.head?.bind (shows session) = none ∧ frames.filterMap (learns session) = [] := by
        refine ⟨Option.bind_eq_none_iff.2 fun frame top => ?_,
          List.filterMap_eq_nil_iff.2 fun frame member => ?_⟩
        · exact (shows_of_aside (aside frame (List.mem_of_mem_head? top))).1
        · exact (shows_of_aside (aside frame member)).2
      obtain ⟨showsTaken, learnsTaken⟩ := silent takenAside
      obtain ⟨showsPut, learnsPut⟩ := silent putAside
      refine tied.pass below showsTaken showsPut (learnsPut.trans learnsTaken.symm)
        (fun identifier => by rw [registry]) (never session stage fun identifier absent here => ?_)
      exact absent (List.mem_map_of_mem ((tied.registered identifier).2 here))
  | create arrival identifier other read =>
      rw [List.singleton_append] at tied ⊢
      by_cases same : other = session
      · subst same
        obtain rfl := fresh rfl
        obtain ⟨shown, learning, registered⟩ := (Tied.cons_iff below).1 tied
        exact Tied.lead below (.create arrival identifier read) (if_pos rfl) learning
          fun other => (registered other).trans (by simp)
      · exact tied.pass_cons below rfl (if_neg same) rfl (fun _ => .rfl) same
  | inform other identifier buffer =>
      rw [List.singleton_append] at tied ⊢
      obtain ⟨shown, learning, registered⟩ := (Tied.cons_iff below).1 tied
      by_cases same : other = session
      · subst same
        obtain rfl := Stage.eq_of_shown ((if_pos rfl).symm.trans shown)
        refine Tied.lead below (.inform identifier buffer) rfl ?_
          fun other => (registered other).trans (by simp)
        have learnsHere : learns other (.inside (.assign other identifier buffer) :
            ConnectionFrame Callback Session) = some identifier := if_pos rfl
        have rest : rest.filterMap (learns other) = [] := learning
        rw [learnsHere, rest]
        rfl
      · exact tied.pass_cons below (if_neg same) rfl (if_neg same) (fun _ => .rfl) same
  | informed other identifier buffer =>
      rw [List.singleton_append] at tied ⊢
      obtain ⟨shown, learning, registered⟩ := (Tied.cons_iff below).1 tied
      by_cases same : other = session
      · subst same
        have learnsHere : learns other (.inside (.assign other identifier buffer) :
            ConnectionFrame Callback Session) = some identifier := if_pos rfl
        rw [learnsHere] at learning
        obtain ⟨rfl, rest⟩ : stage = .informing identifier ∧ rest.filterMap (learns other) = [] := by
          cases stage <;> simp_all [Stage.learning]
        exact Tied.lead below (.informed identifier buffer) (if_pos rfl) rest
          fun other => (registered other).trans (by simp)
      · exact tied.pass_cons below rfl (if_neg same) (if_neg same).symm (fun _ => .rfl) same
  | refuse other identifier buffer closed =>
      rw [List.singleton_append] at tied ⊢
      exact tied.advance below other (.informed identifier) .rejected rfl rfl rfl rfl rfl
        (fun _ => ⟨nofun, nofun⟩) (.refuse identifier buffer closed) id
  | accept other identifier buffer alive =>
      rw [List.singleton_append] at tied ⊢
      exact tied.advance below other (.informed identifier) (.admitted identifier) rfl rfl rfl rfl rfl
        (fun _ => ⟨nofun, nofun⟩) (.accept identifier buffer alive) id
  | register other identifier buffer _ free entries =>
      rw [List.singleton_append] at tied ⊢
      obtain ⟨shown, learning, registered⟩ := (Tied.cons_iff below).1 tied
      by_cases same : other = session
      · subst same
        obtain rfl := Stage.eq_of_shown ((if_pos rfl).symm.trans shown)
        refine Tied.lead below (.register identifier buffer free) rfl learning fun another => ?_
        have absent : (another, other) ∉ connection.registry.entries :=
          fun member => nomatch (registered another).1 member
        rw [entries, List.mem_append, List.mem_singleton]
        simp [absent, eq_comm]
      · refine tied.pass_cons below (if_neg same) rfl rfl (fun another => ?_) same
        rw [entries, List.mem_append, List.mem_singleton]
        simp [Ne.symm same]
  | collide other identifier buffer taken =>
      rw [List.singleton_append] at tied ⊢
      exact tied.advance below other (.admitted identifier) .colliding rfl rfl rfl rfl rfl
        (fun _ => ⟨nofun, nofun⟩) (.collide identifier buffer taken) id
  | countRefused other buffer _ registry =>
      rw [List.singleton_append] at tied ⊢
      exact tied.advance below other .colliding .rejected rfl rfl rfl rfl registry
        (fun _ => ⟨nofun, nofun⟩) (.countRefused buffer) id
  | discard other buffer =>
      rw [List.singleton_append] at tied ⊢
      exact tied.advance below other .rejected .closed rfl (ite_self none).symm rfl rfl rfl
        (fun _ => ⟨nofun, nofun⟩) (.discard buffer) id
  | process other arrival identifier read member =>
      rw [List.singleton_append] at tied ⊢
      obtain ⟨shown, learning, registered⟩ := (Tied.cons_iff below).1 tied
      by_cases same : other = session
      · subst same
        obtain rfl := (registered identifier).1 member
        exact Tied.lead below (.process arrival identifier read) rfl learning registered
      · exact tied.pass_cons below rfl rfl rfl (fun _ => .rfl) same
  | release other identifier _ member registry =>
      rw [List.singleton_append] at tied ⊢
      exact tied.take below member registry .released rfl (ite_self none).symm rfl rfl nofun
        (.release identifier) id
  | remove other identifier left count purpose _ member registry =>
      rw [List.singleton_append] at tied ⊢
      exact tied.take below member registry .removed rfl rfl rfl rfl nofun
        (.remove identifier left count purpose) id
  | close other left count purpose =>
      rw [List.singleton_append] at tied ⊢
      exact tied.advance below other .removed .closed rfl (ite_self none).symm rfl rfl rfl
        (fun _ => ⟨nofun, nofun⟩) (.close left count purpose) id

/-! ## Whole runs -/

theorem tied_new [DecidableEq Session] {config : Config} {connection : Connection Callback Session}
    (opened : Connection.new config = .ok connection) (session : Session) :
    Tied session .unborn connection [] := by
  unfold Connection.new at opened
  split at opened
  · cases opened
    exact ⟨rfl, rfl, fun identifier => iff_of_false (fun member => nomatch member) nofun⟩
  · cases opened

theorem exists_life [DecidableEq Session] {config : Config}
    {first last : Connection Callback Session} {moves : List (ConnectionMove Callback Session)}
    {stack : List (ConnectionFrame Callback Session)}
    (opened : Connection.new config = .ok first)
    (run : Run (component Callback Session) first [] moves last stack)
    (fresh : (moves.filterMap born).Nodup) (session : Session) :
    ∃ stage, Life first session moves last stage ∧ Tied session stage last stack := by
  have holds := run.invariant_of_step (fun moves connection stack =>
    (moves.filterMap born).Nodup → Nested connection stack ∧
      ∃ stage, Life first session moves connection stage ∧ Tied session stage connection stack)
    ?_ fun _ => ⟨.nil, .unborn, .start, tied_new opened session⟩
  · exact (holds fresh).2
  · intro moves connection stack move next nextStack step before fresh
    rw [List.filterMap_append] at fresh
    obtain ⟨nested, stage, life, tied⟩ := before fresh.of_append_left
    obtain ⟨taken, put, rest, rfl, rfl, exchange, fit, below⟩ := nested.exchange step
    have unborn : born move = some session → stage = .unborn := by
      intro born
      by_contra alive
      apply List.disjoint_of_nodup_append fresh (life.mem_born_iff.2 alive)
      exact List.mem_filterMap.2 ⟨move, List.mem_singleton_self move, born⟩
    obtain ⟨later, passage, tied⟩ := (exchange_act fit exchange).passage unborn
      (fun frame member => (below frame member).1) tied
    have nextLife := life.next passage
    rw [moved_of_exchange exchange] at nextLife
    exact ⟨nested.step step, later, nextLife, tied⟩

/--
While a connection is used by one thread, from inside its own calls as well, and the factory returns
a new session each time, every session has a life. It is born when the factory returns it, is told its
identifier once and closed at most once, and is in the registry just while it is registered.
-/
theorem session_lifecycle [DecidableEq Session] {config : Config}
    {first last : Connection Callback Session} {moves : List (ConnectionMove Callback Session)}
    {stack : List (ConnectionFrame Callback Session)}
    (opened : Connection.new config = .ok first)
    (run : Run (component Callback Session) first [] moves last stack)
    (fresh : (moves.filterMap born).Nodup) (session : Session) :
    ∃ stage, Life first session moves last stage ∧
      (session ∈ moves.filterMap born ↔ stage ≠ .unborn) ∧
        (∀ identifier, (identifier, session) ∈ last.registry.entries ↔
          stage = .registered identifier) ∧
          moves.countP (informs session) = stage.informings ∧
            moves.countP (closes session) = stage.closings := by
  obtain ⟨stage, life, tied⟩ := exists_life opened run fresh session
  exact ⟨stage, life, life.mem_born_iff, tied.registered, life.countP_informs, life.countP_closes⟩

/-- Surroundings that find something in the endpoint and create the session `1` for it. -/
def answers (found : Fill) : (request : Request Nat Nat) → Reply request
  | .acquire _ _ => .empty 1500
  | .fill buffer => ({ buffer with contents := List.replicate 17 7 }, .ok found)
  | .isOpen => true
  | .create _ _ => .ok (some 1)
  | .process _ _ _ => .ok 17
  | .release _ _ | .interest | .shutdownOutput | .closeEndpoint | .assign _ _ _ | .discard _ _
  | .sweep _ | .flusher _ => ()

/-- A session is created, processes a datagram and is closed with its connection. -/
def wholeLife : List (Choice (Request Nat Nat) (Method Nat) Reply) :=
  List.flatten
    [[.enter .fillable], List.replicate 3 .proceed, [.finish (answers .empty), .proceed],
      [.finish (answers (.datagram 17 default))], List.replicate 5 .proceed,
      [.finish (answers .empty), .proceed, .finish (answers .empty)], List.replicate 5 .proceed,
      [.finish (answers (.datagram 17 default))], List.replicate 5 .proceed,
      [.finish (answers .empty), .proceed, .finish (answers .empty), .proceed,
        .finish (answers .empty), .proceed, .finish (answers .empty), .proceed, .enter .close],
      List.replicate 5 .proceed]

theorem closed_after_wholeLife :
    let trace := Trace.follow (component Nat Nat) {} wholeLife
    Life {} 1 trace.moves trace.state .closed := by
  have run := Trace.run_follow (component Nat Nat) {} wholeLife
  have opened : Connection.new {} = .ok ({} : Connection Nat Nat) := rfl
  obtain ⟨stage, life, -, -, -, closings⟩ := session_lifecycle opened run (by decide) 1
  have once : (Trace.follow (component Nat Nat) {} wholeLife).moves.countP (closes 1) = 1 := by
    decide
  rw [once] at closings
  cases stage with
  | closed => exact life
  | _ => cases closings

end DatagramMux.Connection
