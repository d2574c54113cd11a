import DatagramMux.Connection.Steps
import DatagramMux.Echo.Basic

/-!
# Hosting echo sessions

Echo sessions take the place of the surroundings in everything that a connection asks of its factory
and its sessions. This works for a connection on its own as well as for one that is part of
something larger, such as a server; what is needed is a method that submits a write.
-/

namespace DatagramMux.Echo

inductive HostTask (Task Callback : Type) where
  /-- A step of what the sessions are hosted by. -/
  | inner (task : Task)
  | creating (arrival : Connection.Arrival) (identifier : ConnectionId) (point : CreatePoint)
  | assigning (number : Nat) (identifier : ConnectionId) (buffer : Buffer)
  | processing (number : Nat) (arrival : Connection.Arrival) (identifier : ConnectionId)
      (point : ProcessPoint)
  | closing (number : Nat) (point : ClosePoint) (request : Connection.Request Callback Nat)
      (reply : Connection.Reply request)

variable {State Task Method Callback : Type}

abbrev HostFrame (Task Callback : Type) :=
  Frame (HostTask Task Callback) (Connection.Request Callback Nat)

/-- A frame of what hosts the sessions, in which what is asked of sessions becomes a task. -/
def liftHost : Frame Task (Connection.Request Callback Nat) → HostFrame Task Callback
  | .task task => .task (.inner task)
  | .call (.create arrival identifier) => .task (.creating arrival identifier .consider)
  | .call (.assign number identifier buffer) => .task (.assigning number identifier buffer)
  | .call (.process number arrival identifier) =>
      .task (.processing number arrival identifier .consult)
  | .call (.discard number buffer) =>
      .task (.closing number .shut (.discard number buffer) ())
  | .call (.sweep (.close number left closed purpose)) =>
      .task (.closing number .shut (.sweep (.close number left closed purpose)) ())
  | .call request => .call request
  | .inside request => .inside request

/-- What follows a step of an activity that is over when it has a result. -/
def Progress.frames {Point Result : Type}
    (enter : SocketAddress → Bytes → List (HostFrame Task Callback))
    (point : Point → HostTask Task Callback) (done : Result → List (HostFrame Task Callback)) :
    Progress Point Result → List (HostFrame Task Callback)
  | .goto next => [.task (point next)]
  | .send remote datagram next => enter remote datagram ++ [.task (point next)]
  | .done result => done result

/--
Echo sessions hosted by a component that makes the requests of a connection. A session submits a
write through a method of the component, with a callback that does nothing.
-/
def host
    (inner : Component State Task (Connection.Request Callback Nat) Method Connection.Reply)
    (send : WriteEntry Callback → Method) (silent : Callback) :
    Component (State × Echo) (HostTask Task Callback) (Connection.Request Callback Nat) Method
      Connection.Reply :=
  let enter (remote : SocketAddress) (datagram : Bytes) : List (HostFrame Task Callback) :=
    (inner.body (send ⟨silent, remote, [datagram]⟩)).map liftHost
  let told (request : Connection.Request Callback Nat) (reply : Connection.Reply request) :
      List (HostFrame Task Callback) :=
    (inner.resume request reply).map liftHost
  { body := fun method => (inner.body method).map liftHost
    step := fun (state, echo) task =>
      match task with
      | .inner task =>
          let (state, frames) := inner.step state task
          ((state, echo), frames.map liftHost)
      | .creating arrival identifier point =>
          let (echo, progress) := echo.createStep arrival.remote arrival.datagram point
          ((state, echo),
            progress.frames enter (.creating arrival identifier)
              fun number? => told (.create arrival identifier) (.ok number?))
      | .assigning number identifier buffer =>
          ((state, echo.assign number identifier), told (.assign number identifier buffer) ())
      | .processing number arrival identifier point =>
          let (echo, progress) := echo.processStep number arrival.remote arrival.datagram point
          ((state, echo),
            progress.frames enter (.processing number arrival identifier)
              fun result => told (.process number arrival identifier) result)
      | .closing number point request reply =>
          let (echo, progress) := echo.closeStep number point
          ((state, echo),
            progress.frames enter (fun next => .closing number next request reply)
              fun _ => told request reply)
    resume := told
    blocked := fun (state, _) task =>
      match task with
      | .inner task => inner.blocked state task
      | _ => false }

end DatagramMux.Echo
