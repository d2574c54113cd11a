import DatagramMux.Flusher.Steps
import DatagramMux.Machine.Crew
import DatagramMux.Stats.Counters

/-!
# Many writers

Threads that submit writes to one flusher, undisturbed or while another thread closes it. The
endpoint completes each write before it returns from it. Which thread gets how far is a matter of
luck, but what is counted here is the same in each case.
-/

namespace DatagramMux.Scenario.Race

/-- A write's callback: by which thread, and as which of its writes, it was submitted. -/
structure Mark where
  thread : Nat
  index : Nat
  deriving DecidableEq, Repr

def Mark.datagram (mark : Mark) : Bytes :=
  Bytes.ofWord32 mark.thread.toUInt32 ++ Bytes.ofWord32 mark.index.toUInt32

def Mark.entry (mark : Mark) : WriteEntry Mark := ⟨mark, .v4 127 0 0 1 9000, [mark.datagram]⟩

/-- How many threads write, and how often each. -/
structure Load where
  threads : Nat
  each : Nat
  deriving DecidableEq, Repr

def Load.marks (load : Load) : List (List Mark) :=
  (List.range load.threads).map fun thread =>
    (List.range load.each).map fun index => ⟨thread, index⟩

/-- What the endpoint and the callbacks have seen. -/
structure Wire where
  /-- The write that fails, counted from zero. -/
  failing? : Option Nat := none
  /-- The datagrams that were written, latest first. -/
  written : List Bytes := []
  writes : Nat := 0
  /-- How many writes the endpoint is busy with. -/
  busy : Nat := 0
  /-- The most writes that it ever was busy with at a time. -/
  mostBusy : Nat := 0
  /-- The callbacks that were called, latest first. -/
  called : List (Mark × Flusher.Outcome) := []

namespace Wire

/-- What happens when the flusher asks for something: a write is completed at once. -/
def hear (wire : Wire) : Flusher.Request Mark → Wire × List (Nat × Flusher.Completion)
  | .write ticket entry =>
      let completion : Flusher.Completion :=
        if wire.failing? = some wire.writes then
          .error (.described .other "scripted write failure")
        else .ok ()
      ({ wire with
          written := entry.datagram :: wire.written
          writes := wire.writes + 1
          busy := wire.busy + 1
          mostBusy := max wire.mostBusy (wire.busy + 1) },
        [(ticket, completion)])
  | .notify callback outcome _ => ({ wire with called := (callback, outcome) :: wire.called }, [])
  | .failure => (wire, [])

/-- What happens when the flusher has what it asked for. -/
def done (wire : Wire) : Flusher.Request Mark → Wire
  | .write _ _ => { wire with busy := wire.busy - 1 }
  | _ => wire

/-- How many callbacks were told something of a kind. -/
def told (wire : Wire) (kind : Flusher.Outcome → Bool) : Nat :=
  wire.called.countP fun (_, outcome) => kind outcome

def succeeded (wire : Wire) : Nat :=
  wire.told fun | .ok () => true | _ => false

/-- How many callbacks were told that their write failed at the endpoint. -/
def failed (wire : Wire) : Nat :=
  wire.told fun | .error (.io _) => true | _ => false

/-- How many callbacks were told that the flusher was closed. -/
def refused (wire : Wire) : Nat :=
  wire.told fun | .error .closed => true | _ => false

/-- Whether each callback was called once. -/
def calledOnce (wire : Wire) (load : Load) : Bool :=
  let numbers := wire.called.map fun (mark, _) => mark.thread * load.each + mark.index
  numbers.mergeSort (· ≤ ·) = List.range (load.threads * load.each)

/-- Whether the datagrams of each thread were written in the order in which it submitted them. -/
def inOrder (wire : Wire) (load : Load) : Bool :=
  let written := wire.written.reverse
  (List.range load.threads).all fun thread =>
    let own := Bytes.ofWord32 thread.toUInt32
    let mine := written.filter fun datagram => datagram.take 4 = own
    mine = (List.range mine.length).map fun index => Mark.datagram ⟨thread, index⟩

end Wire

def wiring :
    Surroundings Wire (Flusher.Request Mark) (Flusher.Method Mark) (fun _ => Unit) where
  hear wire request :=
    let (wire, completions) := wire.hear request
    (wire, completions.map fun (ticket, completion) => .complete ticket completion)
  reply wire request := (wire.done request, ())

/-- The longest turn of a number of threads: some writes of every thread fit in. -/
def longestTurn (threads : Nat) : Nat := 32 * (threads + 1)

/-- More turns than are needed for a load and a thread with a delay. -/
def enoughTurns (load : Load) (delay : Nat) : Nat :=
  (load.threads + 2) * (64 * (load.threads * load.each + 4) + delay)

/-- How a flusher and its wire are left when all threads are done. -/
structure Writing where
  load : Load
  flusher : Flusher Mark
  wire : Wire

/-- Threads write to a flusher, while further threads do something else. -/
def write (load : Load) (others : List (Thread (Flusher.Task Mark) (Flusher.Request Mark)
    (Flusher.Method Mark))) (start delay : Nat) : Writing :=
  let writers := load.marks.map fun marks =>
    { methods := marks.map fun mark => Flusher.Method.offer mark.entry }
  let crew := Crew.takeTurns (Flusher.component Mark) wiring (longestTurn load.threads)
    (enoughTurns load delay) start ⟨.new, {}, writers ++ others⟩
  { load := load, flusher := crew.state, wire := crew.world }

/-- Threads write to a flusher. -/
def submit (load : Load) : Writing := write load [] 0 0

/-- Threads write to a flusher, and another thread closes it after a delay. -/
def submitAndClose (load : Load) (delay : Nat) : Writing :=
  write load [{ methods := [.close], delay := delay }] delay delay

namespace Writing

/-- The counts of the flusher. -/
def stats (writing : Writing) : Stats where
  writesSubmitted := writing.flusher.submitted
  writesCompleted := writing.flusher.completed
  writesFailed := writing.flusher.failed

/-- What holds however the flusher was closed while threads wrote to it. -/
def promisesKept (writing : Writing) : Bool :=
  let flusher := writing.flusher
  let wire := writing.wire
  wire.calledOnce writing.load && wire.succeeded == wire.writes && wire.failed == 0 &&
    flusher.completed + flusher.failed == flusher.submitted && wire.inOrder writing.load &&
    wire.mostBusy ≤ 1 && flusher.queued == 0 && flusher.condition == .terminating

end Writing

end DatagramMux.Scenario.Race
