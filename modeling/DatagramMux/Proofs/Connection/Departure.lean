import DatagramMux.Proofs.Connection.Failure
import DatagramMux.Proofs.Connection.Shutdown

/-!
# How sessions leave a connection

What a connection remembers depends on the moves that it has made, so the moves tell at which moments
a session was registered and whether somebody has closed it by its identifier. When a connection was
closed and everybody has returned, no session is registered any more, and each one that ever was,
unless it was taken out by its identifier, was closed once.
-/

namespace DatagramMux.Connection

open Component

variable {Callback Session : Type}
variable {config : Config} {first last connection other : Connection Callback Session}
variable {moves : List (ConnectionMove Callback Session)} {move : ConnectionMove Callback Session}
variable {stack : List (ConnectionFrame Callback Session)} {session : Session} {stage later : Stage}

/-! ## What the moves tell -/

/-- What a connection remembers after some moves. -/
def after (first : Connection Callback Session) (moves : List (ConnectionMove Callback Session)) :
    Connection Callback Session :=
  moves.foldl moved first

theorem after_append (first : Connection Callback Session)
    (moves further : List (ConnectionMove Callback Session)) :
    after first (moves ++ further) = after (after first moves) further :=
  List.foldl_append

theorem after_of_run (run : Run (component Callback Session) first [] moves last stack) :
    after first moves = last := by
  refine run.invariant_of_step (fun moves connection _ => after first moves = connection) ?_ rfl
  intro moves connection stack move next nextStack step same
  obtain ⟨taken, put, rest, -, -, exchange⟩ := step.exchange
  rw [after_append, same]
  exact moved_of_exchange exchange

/-- A session is registered at some moment. -/
def Enrolled (first : Connection Callback Session)
    (moves : List (ConnectionMove Callback Session)) (session : Session) : Prop :=
  ∃ earlier later identifier, moves = earlier ++ later ∧
    (identifier, session) ∈ (after first earlier).registry.entries

/-- A session is taken out of the registry since somebody has asked for it by its identifier. -/
def Dismissed (first : Connection Callback Session)
    (moves : List (ConnectionMove Callback Session)) (session : Session) : Prop :=
  ∃ earlier later identifier, moves = earlier ++ .work (.unregister identifier) :: later ∧
    (identifier, session) ∈ (after first earlier).registry.entries

/-- Whether a move looks for a session by an identifier that somebody wants to be closed. -/
def seeksOut : ConnectionMove Callback Session → Bool
  | .work (.unregister _) => true
  | _ => false

theorem not_dismissed (none : moves.any seeksOut = false) : ¬Dismissed first moves session := by
  rintro ⟨earlier, later, identifier, rfl, -⟩
  simp [seeksOut] at none

/-! ## Only one life -/

theorem Passage.unique (one : Passage connection session move stage later) {another : Stage}
    (two : Passage connection session move stage another) : later = another := by
  cases one with
  | pass _ _ _ aside =>
      cases two with
      | pass => rfl
      | _ => exact absurd rfl aside
  | refuse _ _ closed | accept _ _ closed =>
      cases two with
      | refuse _ _ other | accept _ _ other => first | rfl | cases closed.symm.trans other
      | pass _ _ _ aside => exact absurd rfl aside
  | register _ _ free =>
      cases two with
      | register => rfl
      | collide _ _ taken => exact absurd taken free
      | pass _ _ _ aside => exact absurd rfl aside
  | collide _ _ taken =>
      cases two with
      | register _ _ free => exact absurd taken free
      | collide => rfl
      | pass _ _ _ aside => exact absurd rfl aside
  | _ =>
      cases two with
      | pass _ _ _ aside => exact absurd rfl aside
      | _ => rfl

theorem Life.unique (one : Life first session moves connection stage) {another : Stage}
    (two : Life first session moves other another) : connection = other ∧ stage = another := by
  induction one generalizing other another with
  | start =>
      generalize none : ([] : List (ConnectionMove Callback Session)) = moves at two
      cases two with
      | start => exact ⟨rfl, rfl⟩
      | next => simp at none
  | @next moves connection move stage later _ passage ih =>
      generalize whole : moves ++ [move] = all at two
      cases two with
      | start => simp at whole
      | next life passageToo =>
          obtain ⟨rfl, same⟩ := List.append_inj' whole rfl
          obtain rfl := List.singleton_inj.1 same
          obtain ⟨rfl, rfl⟩ := ih life
          exact ⟨rfl, passage.unique passageToo⟩

/-- A session that was released was registered just before. -/
theorem Life.exists_release (life : Life first session moves connection stage)
    (released : stage = .released) :
    ∃ earlier further identifier middle,
      moves = earlier ++ .work (.unregister identifier) :: further ∧
        Life first session earlier middle (.registered identifier) := by
  induction life with
  | start => cases released
  | @next moves connection move stage later life passage ih =>
      subst released
      cases passage with
      | release identifier => exact ⟨moves, [], identifier, connection, rfl, life⟩
      | pass =>
          obtain ⟨earlier, further, identifier, middle, rfl, before⟩ := ih rfl
          exact ⟨earlier, further ++ [move], identifier, middle, List.append_assoc _ _ _, before⟩

section Run

variable [DecidableEq Session]

theorem born_of_enrolled (opened : Connection.new config = .ok first)
    (run : Run (component Callback Session) first [] moves last stack)
    (fresh : (moves.filterMap born).Nodup) (enrolled : Enrolled first moves session) :
    session ∈ moves.filterMap born := by
  obtain ⟨earlier, further, identifier, rfl, registered⟩ := enrolled
  obtain ⟨middle, middleStack, before, -⟩ := run.split
  rw [List.filterMap_append] at fresh ⊢
  obtain ⟨stage, life, tied⟩ := exists_life opened before fresh.of_append_left session
  rw [after_of_run before, tied.registered] at registered
  apply List.mem_append_left
  rw [life.mem_born_iff, registered]
  nofun

theorem dismissed_of_released (opened : Connection.new config = .ok first)
    (run : Run (component Callback Session) first [] moves last stack)
    (fresh : (moves.filterMap born).Nodup) (life : Life first session moves last .released) :
    Dismissed first moves session := by
  obtain ⟨earlier, further, identifier, middle, rfl, before⟩ := life.exists_release rfl
  obtain ⟨state, stateStack, reached, -⟩ := run.split
  rw [List.filterMap_append] at fresh
  obtain ⟨stage, lifeToo, tied⟩ := exists_life opened reached fresh.of_append_left session
  obtain ⟨-, rfl⟩ := before.unique lifeToo
  refine ⟨earlier, further, identifier, rfl, ?_⟩
  rw [after_of_run reached]
  exact (tied.registered identifier).2 rfl

end Run

/-! ## The end -/

theorem vacant_of_closed (opened : Connection.new config = .ok first)
    (run : Run (component Callback Session) first [] moves last []) (closed : last.closed = true) :
    last.registry.entries = [] := by
  obtain ⟨lasting, watched⟩ := ThreadRun.exists_watched (listing Callback Session)
    (.start (listing Callback Session) ⟨first, [[]]⟩) run.threadRun
  have guarded : Guarded (⟨⟨last, [[]]⟩, lasting⟩ : ConnectionWatch Callback Session) := by
    refine watched.invariant (fun _ => Guarded) (fun _ step => Guarded.step step) fun raised => ?_
    rw [Watched.start, new_eq opened] at raised
    cases raised
  refine List.eq_nil_iff_forall_not_mem.2 fun entry member => ?_
  obtain ⟨thread, own, frame, found, inStack, -⟩ :=
    guarded closed entry.1 (List.mem_map_of_mem member)
  obtain rfl := List.mem_singleton.1 (List.mem_of_getElem? found)
  cases inStack

/-- Every session that was registered and not dismissed was closed once. -/
theorem closed_once_of_closed [DecidableEq Session] (opened : Connection.new config = .ok first)
    (run : Run (component Callback Session) first [] moves last [])
    (fresh : (moves.filterMap born).Nodup) (closed : last.closed = true)
    (enrolled : Enrolled first moves session) (kept : ¬Dismissed first moves session) :
    moves.countP (closes session) = 1 := by
  obtain ⟨stage, life, tied⟩ := exists_life opened run fresh session
  have calm := Stage.not_urgent tied.shown
  rw [life.countP_closes]
  cases stage with
  | closed => rfl
  | unborn => exact absurd rfl (life.mem_born_iff.1 (born_of_enrolled opened run fresh enrolled))
  | registered identifier =>
      have member := (tied.registered identifier).2 rfl
      rw [vacant_of_closed opened run closed] at member
      cases member
  | informing identifier => cases tied.learning
  | released => exact absurd (dismissed_of_released opened run fresh life) kept
  | created | informed | admitted | colliding | rejected | removed => cases calm

end DatagramMux.Connection
