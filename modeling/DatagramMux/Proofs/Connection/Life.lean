import DatagramMux.Proofs.Connection.Nesting

/-!
# The life of a session

A new session is told its identifier and is then registered or closed at once; a registered session
processes datagrams until it is taken out of the registry, in order to be closed or because it has
closed itself. This module tells how the moves of a connection lead a session from one stage of its
life to the next, and which moves leave it where it is.
-/

namespace DatagramMux.Connection

variable {Callback Session : Type}

/-- A stage of a session's life. -/
inductive Stage where
  | unborn
  | created (identifier : ConnectionId)
  | informing (identifier : ConnectionId)
  | informed (identifier : ConnectionId)
  /-- The connection was open when it had learnt its identifier. -/
  | admitted (identifier : ConnectionId)
  /-- Its identifier was taken. -/
  | colliding
  /-- It cannot stay. -/
  | rejected
  | registered (identifier : ConnectionId)
  /-- It was taken out of the registry and has nothing more to do with the connection. -/
  | released
  /-- It was taken out of the registry in order to be closed. -/
  | removed
  | closed
  deriving DecidableEq

/-- Whether the next move has to be about the session. -/
def Stage.urgent : Stage → Bool
  | .created _ | .informed _ | .admitted _ | .colliding | .rejected | .removed => true
  | .unborn | .informing _ | .registered _ | .released | .closed => false

/-- Whether a move is about a session in some stage of its life. -/
def Concerns (session : Session) (stage : Stage) : ConnectionMove Callback Session → Prop
  | .finish (.create _ _) (.ok (some other)) => other = session
  | .begin (.assign other _ _) | .finish (.assign other _ _) () => other = session
  | .work (.vet other _ _) | .work (.register other _ _) | .work (.countRefused other _) =>
      other = session
  | .begin (.process other _ _) => other = session
  | .begin (.discard other _) | .begin (.sweep (.close other _ _ _)) => other = session
  | .work (.unregister identifier) | .work (.withdraw identifier _)
  | .work (.sweep (.next (identifier :: _) _ _)) => stage = .registered identifier
  | _ => False

/-- How a move leads a session from one stage of its life to the next. -/
inductive Passage (connection : Connection Callback Session) (session : Session) :
    ConnectionMove Callback Session → Stage → Stage → Prop where
  /-- The factory creates it for a datagram with an identifier. -/
  | create (arrival : Arrival) (identifier : ConnectionId) :
      connection.identifier? arrival.datagram = some identifier →
        Passage connection session (.finish (.create arrival identifier) (.ok (some session)))
          .unborn (.created identifier)
  | inform (identifier : ConnectionId) (buffer : Buffer) :
      Passage connection session (.begin (.assign session identifier buffer))
        (.created identifier) (.informing identifier)
  | informed (identifier : ConnectionId) (buffer : Buffer) :
      Passage connection session (.finish (.assign session identifier buffer) ())
        (.informing identifier) (.informed identifier)
  /-- It cannot stay if the connection was closed meanwhile. -/
  | refuse (identifier : ConnectionId) (buffer : Buffer) : connection.closed = true →
      Passage connection session (.work (.vet session identifier buffer))
        (.informed identifier) .rejected
  | accept (identifier : ConnectionId) (buffer : Buffer) : connection.closed = false →
      Passage connection session (.work (.vet session identifier buffer))
        (.informed identifier) (.admitted identifier)
  /-- It is registered under its identifier unless that is taken. -/
  | register (identifier : ConnectionId) (buffer : Buffer) :
      identifier ∉ connection.registry.identifiers →
        Passage connection session (.work (.register session identifier buffer))
          (.admitted identifier) (.registered identifier)
  | collide (identifier : ConnectionId) (buffer : Buffer) :
      identifier ∈ connection.registry.identifiers →
        Passage connection session (.work (.register session identifier buffer))
          (.admitted identifier) .colliding
  | countRefused (buffer : Buffer) :
      Passage connection session (.work (.countRefused session buffer)) .colliding .rejected
  | discard (buffer : Buffer) :
      Passage connection session (.begin (.discard session buffer)) .rejected .closed
  /-- It processes datagrams with its identifier while it is registered. -/
  | process (arrival : Arrival) (identifier : ConnectionId) :
      connection.identifier? arrival.datagram = some identifier →
        Passage connection session (.begin (.process session arrival identifier))
          (.registered identifier) (.registered identifier)
  | release (identifier : ConnectionId) :
      Passage connection session (.work (.unregister identifier))
        (.registered identifier) .released
  /-- It is taken out of the registry when all sessions are closed, and closed. -/
  | remove (identifier : ConnectionId) (left : List ConnectionId) (count : Nat)
      (purpose : Purpose) :
      Passage connection session (.work (.sweep (.next (identifier :: left) count purpose)))
        (.registered identifier) .removed
  | close (left : List ConnectionId) (count : Nat) (purpose : Purpose) :
      Passage connection session (.begin (.sweep (.close session left count purpose)))
        .removed .closed
  /-- All other moves leave it alone, but none of them comes where it is due. -/
  | pass (move : ConnectionMove Callback Session) (stage : Stage) : stage.urgent = false →
      ¬Concerns session stage move → Passage connection session move stage stage

/-- What a connection remembers after a move. -/
def moved (connection : Connection Callback Session) :
    ConnectionMove Callback Session → Connection Callback Session
  | .work task => (step connection task).1
  | _ => connection

theorem moved_of_exchange {connection next : Connection Callback Session} {move taken put}
    (exchange : Component.Exchange (component Callback Session) connection move taken next put) :
    moved connection move = next := by
  cases exchange <;> rfl

/-- The life of a session during the moves of a connection, up to some stage. -/
inductive Life (first : Connection Callback Session) (session : Session) :
    List (ConnectionMove Callback Session) → Connection Callback Session → Stage → Prop where
  | start : Life first session [] first .unborn
  | next {moves : List (ConnectionMove Callback Session)}
      {connection : Connection Callback Session} {move : ConnectionMove Callback Session}
      {stage later : Stage} :
      Life first session moves connection stage →
        Passage connection session move stage later →
          Life first session (moves ++ [move]) (moved connection move) later

/-! ## What a life contains -/

/-- The session that the factory returns in a move. -/
def born : ConnectionMove Callback Session → Option Session
  | .finish (.create _ _) (.ok (some session)) => some session
  | _ => none

section Decidable

variable [DecidableEq Session]

/-- Whether a session begins to learn its identifier. -/
def informs (session : Session) : ConnectionMove Callback Session → Bool
  | .begin (.assign other _ _) => other = session
  | _ => false

/-- Whether a session begins to be closed. -/
def closes (session : Session) : ConnectionMove Callback Session → Bool
  | .begin (.discard other _) | .begin (.sweep (.close other _ _ _)) => other = session
  | _ => false

/-- How often a session that has come to a stage has begun to learn its identifier. -/
def Stage.informings : Stage → Nat
  | .unborn | .created _ => 0
  | _ => 1

def Stage.closings : Stage → Nat
  | .closed => 1
  | _ => 0

theorem not_informs_of_not_concerns {session : Session} {stage : Stage}
    {move : ConnectionMove Callback Session} (aside : ¬Concerns session stage move) :
    informs session move = false ∧ closes session move = false := by
  cases move with
  | work task => exact ⟨rfl, rfl⟩
  | «begin» request =>
      cases request with
      | assign other identifier buffer => exact ⟨decide_eq_false aside, rfl⟩
      | discard other buffer => exact ⟨rfl, decide_eq_false aside⟩
      | sweep request =>
          cases request with
          | close other left count purpose => exact ⟨rfl, decide_eq_false aside⟩
          | report => exact ⟨rfl, rfl⟩
      | _ => exact ⟨rfl, rfl⟩
  | finish request reply => exact ⟨rfl, rfl⟩
  | enter method => exact ⟨rfl, rfl⟩

end Decidable

namespace Life

variable {first connection : Connection Callback Session} {session : Session}
variable {moves : List (ConnectionMove Callback Session)} {stage : Stage}

theorem mem_born_iff (life : Life first session moves connection stage) :
    session ∈ moves.filterMap born ↔ stage ≠ .unborn := by
  induction life with
  | start => simp
  | @next moves connection move stage later _ passage ih =>
      rw [List.filterMap_append, List.mem_append, ih]
      cases passage with
      | create => simp [born]
      | pass _ _ urgent aside =>
          have other : session ∉ [move].filterMap born := by
            intro member
            obtain ⟨same, found, returned⟩ := List.mem_filterMap.1 member
            obtain rfl := List.mem_singleton.1 found
            unfold born at returned
            split at returned
            · exact aside (Option.some.inj returned)
            · cases returned
          simp [other]
      | _ => simp [born]

variable [DecidableEq Session]

theorem countP_informs (life : Life first session moves connection stage) :
    moves.countP (informs session) = stage.informings := by
  induction life with
  | start => rfl
  | next _ passage ih =>
      rw [List.countP_append, ih, List.countP_singleton]
      cases passage with
      | pass _ _ urgent aside => rw [(not_informs_of_not_concerns aside).1]; rfl
      | _ => simp [informs, Stage.informings]

theorem countP_closes (life : Life first session moves connection stage) :
    moves.countP (closes session) = stage.closings := by
  induction life with
  | start => rfl
  | next _ passage ih =>
      rw [List.countP_append, ih, List.countP_singleton]
      cases passage with
      | pass _ _ urgent aside => rw [(not_informs_of_not_concerns aside).2]; rfl
      | _ => simp [closes, Stage.closings]

end Life

end DatagramMux.Connection
