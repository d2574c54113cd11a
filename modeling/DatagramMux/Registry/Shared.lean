import DatagramMux.Registry.Sweep

/-!
# A registry that is shared

The registry as a component: sessions are registered and taken out, and all of them are closed, by
any number of threads and also from inside the closing of a session. Every operation on the table is
one atomic step, and its outcome is told to the surroundings.
-/

namespace DatagramMux.Registry

/-- What may be asked of a shared registry. -/
inductive SharedMethod (Session : Type) where
  | insert (identifier : ConnectionId) (session : Session)
  | remove (identifier : ConnectionId)
  | closeAll
  deriving DecidableEq, Repr

inductive SharedTask (Session : Type) where
  | insert (identifier : ConnectionId) (session : Session)
  | remove (identifier : ConnectionId)
  | sweep (task : SweepTask Unit)
  deriving DecidableEq, Repr

/-- What a shared registry asks of its surroundings or tells them. -/
inductive SharedRequest (Session : Type) where
  /-- Tell whether a session was registered. -/
  | inserted (identifier : ConnectionId) (session : Session) (accepted : Bool)
  /-- Tell which session was taken out. -/
  | removed (identifier : ConnectionId) (session? : Option Session)
  | sweep (request : SweepRequest Session Unit)
  deriving DecidableEq, Repr

abbrev SharedFrame (Session : Type) := Frame (SharedTask Session) (SharedRequest Session)

variable {Session : Type}

/-- A frame of closing all sessions as a frame of the shared registry. -/
def liftSweep : SweepFrame Session Unit → SharedFrame Session
  | .task task => .task (.sweep task)
  | .call request => .call (.sweep request)
  | .inside request => .inside (.sweep request)

def sharedStep (registry : Registry Session) :
    SharedTask Session → Registry Session × List (SharedFrame Session)
  | .insert identifier session =>
      match registry.insert? identifier session with
      | some extended => (extended, [.call (.inserted identifier session true)])
      | none => (registry, [.call (.inserted identifier session false)])
  | .remove identifier =>
      let (rest, session?) := registry.remove identifier
      (rest, [.call (.removed identifier session?)])
  | .sweep task =>
      let (rest, frames) := sweepStep registry task
      (rest, frames.map liftSweep)

def shared (Session : Type) :
    Component (Registry Session) (SharedTask Session) (SharedRequest Session) (SharedMethod Session)
      (fun _ => Unit) where
  body
    | .insert identifier session => [.task (.insert identifier session)]
    | .remove identifier => [.task (.remove identifier)]
    | .closeAll => [.task (.sweep (.list ()))]
  step := sharedStep
  resume
    | .sweep request, () => (sweepResume request).map liftSweep
    | _, () => []

end DatagramMux.Registry
