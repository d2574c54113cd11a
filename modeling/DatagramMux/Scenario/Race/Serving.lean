import DatagramMux.Connection.Steps
import DatagramMux.Scenario.Race.Writing

/-!
# Many users of a connection

Threads that submit writes to a connection of which one fails, and a thread that runs the read loop
of a connection while another closes it.
-/

namespace DatagramMux.Scenario.Race

/-- What the collaborators of a connection have seen. -/
structure Scene where
  wire : Wire := {}
  pool : BufferPool := {}
  isOpen : Bool := true
  /-- The datagrams that are still to arrive, oldest first. -/
  arrivals : List Bytes := []
  /-- How many sessions were created; also the number of the next one. -/
  sessions : Nat := 0
  /-- The sessions that were closed, latest first. -/
  closed : List Nat := []

namespace Scene

/-- What happens when a connection asks for something. -/
def hear (scene : Scene) : Connection.Request Mark Nat → Scene × List (Connection.Method Mark)
  | .closeEndpoint => ({ scene with isOpen := false }, [])
  | .discard session _ => ({ scene with closed := session :: scene.closed }, [])
  | .sweep (.close session _ _ _) => ({ scene with closed := session :: scene.closed }, [])
  | .flusher request =>
      let (wire, completions) := scene.wire.hear request
      ({ scene with wire := wire },
        completions.map fun (ticket, completion) => .complete ticket completion)
  | _ => (scene, [])

/-- What is replied to a connection. Datagrams arrive one by one, and every one gets a session. -/
def reply (scene : Scene) :
    (request : Connection.Request Mark Nat) → Scene × Connection.Reply request
  | .acquire least _ =>
      let (pool, buffer) := scene.pool.acquire least
      ({ scene with pool := pool }, buffer)
  | .release buffer _ => ({ scene with pool := scene.pool.release buffer }, ())
  | .fill buffer =>
      match scene.arrivals with
      | [] => (scene, (buffer, .ok .empty))
      | datagram :: rest =>
          ({ scene with arrivals := rest },
            ({ buffer with contents := datagram },
              .ok (.datagram datagram.length (.v4 127 0 0 1 9000))))
  | .isOpen => (scene, scene.isOpen)
  | .create _ _ => ({ scene with sessions := scene.sessions + 1 }, .ok (some scene.sessions))
  | .process _ arrival _ => (scene, .ok arrival.datagram.length)
  | .flusher request => ({ scene with wire := scene.wire.done request }, ())
  | .assign _ _ _ => (scene, ())
  | .discard _ _ => (scene, ())
  | .interest => (scene, ())
  | .shutdownOutput => (scene, ())
  | .closeEndpoint => (scene, ())
  | .sweep _ => (scene, ())

end Scene

def staging :
    Surroundings Scene (Connection.Request Mark Nat) (Connection.Method Mark) Connection.Reply where
  hear := Scene.hear
  reply := Scene.reply

/-- How a connection and its collaborators are left when all threads are done. -/
structure Serving where
  connection : Connection Mark Nat
  scene : Scene

/-- Threads use a connection. -/
def serve (scene : Scene) (threads : List (List (Connection.Method Mark) × Nat))
    (longest turns start : Nat) : Serving :=
  let crew := Crew.takeTurns (Connection.component Mark Nat) staging longest turns start
    ⟨{}, scene, threads.map fun (methods, delay) => { methods := methods, delay := delay }⟩
  { connection := crew.state, scene := crew.world }

/-- Threads write to a connection of which one write fails at the endpoint. -/
def submitAndFail (load : Load) (failing : Nat) : Serving :=
  serve { wire := { failing? := some failing } }
    (load.marks.map fun marks => (marks.map fun mark => .write mark.entry, 0))
    (longestTurn load.threads) (enoughTurns load 0) 0

/-- The first datagram of a client with a number. -/
def firstDatagram (number : Nat) : Bytes :=
  [0xc0, 0, 0, 0, 1, 4] ++ Bytes.ofWord32 number.toUInt32

/--
The read loop runs over a number of first datagrams, while another thread closes the connection
after a delay.
-/
def dispatchAndClose (datagrams delay : Nat) : Serving :=
  serve { arrivals := (List.range datagrams).map firstDatagram }
    [([.fillable], 0), ([.close], delay)] 64 (64 * (datagrams + delay + 4)) delay

namespace Serving

/--
What holds however a connection was closed while its read loop ran over a number of datagrams.
-/
def promisesKept (serving : Serving) (datagrams : Nat) : Bool :=
  serving.scene.sessions == datagrams &&
    serving.scene.closed.mergeSort (· ≤ ·) == List.range datagrams &&
    serving.connection.registry.identifiers.isEmpty && serving.connection.closed &&
    serving.scene.pool.outstanding == 0

end Serving

end DatagramMux.Scenario.Race
