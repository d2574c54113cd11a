import DatagramMux.Flusher.Basic
import DatagramMux.Machine.Component

/-!
# The flusher step by step

The flusher as a component. Every exchange of its phase, every access to its queue or to the
callback of the current write, and every count is one atomic step, so that it can be used by several
threads and from inside its own calls.

A submitted write is counted and queued, and then whoever finds the flusher idle iterates: takes the
oldest entry, hands it to the endpoint and looks what has become of it. If its completion came
meanwhile, the iteration goes on; otherwise the completion will take it up again when it comes. A
failed write or a request to close terminates the flusher, after which everything that is queued,
then or later, is refused.
-/

namespace DatagramMux.Flusher

/-- How a write ended at the endpoint. -/
abbrev Completion := Except IoError Unit

/-- What a write's callback is told. -/
abbrev Outcome := Except MuxError Unit

inductive Task (Callback : Type) where
  | count (entry : WriteEntry Callback)
  /-- Put a submitted write at the end of the queue. -/
  | enqueue (entry : WriteEntry Callback)
  /-- Begin to iterate if the flusher is idle. -/
  | iterate
  | take
  /-- Become idle, since the queue was empty. -/
  | settle
  /-- Look whether the queue is still empty. -/
  | look
  /-- Begin to iterate again, since something was queued meanwhile. -/
  | reclaim
  /-- Look whether the flusher was terminated after the entry had been taken. -/
  | check (entry : WriteEntry Callback)
  /-- Count an entry that was taken but must not be handed over. -/
  | refuse (entry : WriteEntry Callback)
  /-- Remember the callback of an entry and hand the entry to the endpoint. -/
  | hand (entry : WriteEntry Callback)
  /-- See what became of a write from which the endpoint has returned. -/
  | written
  /-- Go on iterating, since the write was completed meanwhile. -/
  | regain
  /-- Use a ticket to report how its write ended. -/
  | redeem (ticket : Nat) (completion : Completion)
  | collect (completion : Completion)
  | tally (callback? : Option Callback) (completion : Completion)
  /-- See in which phase a write succeeded. -/
  | succeed
  /-- Leave the mark that the completion came while the endpoint was still in the write. -/
  | mark
  /-- Take up the iteration that was waiting for the completion. -/
  | resume
  /-- Terminate after a failed write. -/
  | fail
  /-- Empty the queue; afterwards, report a failure or not. -/
  | drain (report : Bool)
  /-- Count the first of the entries that are refused. -/
  | refuseAll (entries : List (WriteEntry Callback)) (report : Bool)
  | close

/-- What the flusher asks of its surroundings. -/
inductive Request (Callback : Type) where
  /-- Send a datagram; whoever holds the ticket reports the completion. -/
  | write (ticket : Nat) (entry : WriteEntry Callback)
  /-- Call a write's callback, and then go on with a task. -/
  | notify (callback : Callback) (outcome : Outcome) (next : Task Callback)
  /-- Learn that a write has failed and the flusher has terminated for that reason. -/
  | failure

/-- What may be asked of the flusher. -/
inductive Method (Callback : Type) where
  | offer (entry : WriteEntry Callback)
  /-- Make progress if nobody else does. -/
  | iterate
  | close
  /-- Report with a ticket how its write ended. -/
  | complete (ticket : Nat) (completion : Completion)

abbrev FlusherFrame (Callback : Type) := Frame (Task Callback) (Request Callback)

variable {Callback : Type}

/-- What a callback is told of a write that ended at the endpoint. -/
def Completion.outcome : Completion → Outcome
  | .ok () => .ok ()
  | .error cause => .error (.io cause)

/-- How the flusher goes on after a write that ended at the endpoint. -/
def Completion.sequel : Completion → Task Callback
  | .ok () => .succeed
  | .error _ => .fail

def step (flusher : Flusher Callback) :
    Task Callback → Flusher Callback × List (FlusherFrame Callback)
  | .count entry =>
      ({ flusher with submitted := flusher.submitted + 1 }, [.task (.enqueue entry)])
  | .enqueue entry =>
      ({ flusher with queue := flusher.queue ++ [entry] }, [.task .iterate])
  | .iterate =>
      match flusher.phase with
      | .idle => ({ flusher with phase := .iterating }, [.task .take])
      | .terminated => (flusher, [.task (.drain false)])
      | .iterating | .pending | .called => (flusher, [])
  | .take =>
      match flusher.queue with
      | [] => (flusher, [.task .settle])
      | entry :: rest => ({ flusher with queue := rest }, [.task (.check entry)])
  | .settle =>
      match flusher.phase with
      | .iterating => ({ flusher with phase := .idle }, [.task .look])
      | _ => (flusher, [.task (.drain false)])
  | .look =>
      if flusher.queue.isEmpty then (flusher, []) else (flusher, [.task .reclaim])
  | .reclaim =>
      match flusher.phase with
      | .idle => ({ flusher with phase := .iterating }, [.task .take])
      | .terminated => (flusher, [.task (.drain false)])
      | .iterating | .pending | .called => (flusher, [])
  | .check entry =>
      if flusher.phase = .terminated then (flusher, [.task (.refuse entry)])
      else (flusher, [.task (.hand entry)])
  | .refuse entry =>
      ({ flusher with failed := flusher.failed + 1 },
        [.call (.notify entry.callback (.error .closed) (.drain false))])
  | .hand entry =>
      ({ flusher with
          current := some entry.callback
          handed := flusher.handed + 1
          outstanding := flusher.outstanding ++ [flusher.handed] },
        [.call (.write flusher.handed entry)])
  | .written =>
      match flusher.phase with
      | .iterating => ({ flusher with phase := .pending }, [])
      | .called => (flusher, [.task .regain])
      | .terminated => (flusher, [.task (.drain false)])
      | .idle | .pending => (flusher, [])
  | .regain =>
      match flusher.phase with
      | .called => ({ flusher with phase := .iterating }, [.task .take])
      | _ => (flusher, [.task (.drain false)])
  | .redeem ticket completion =>
      if ticket ∈ flusher.outstanding then
        ({ flusher with outstanding := flusher.outstanding.erase ticket },
          [.task (.collect completion)])
      else (flusher, [])
  | .collect completion =>
      ({ flusher with current := none }, [.task (.tally flusher.current completion)])
  | .tally callback? completion =>
      let counted := match completion with
        | .ok () => { flusher with completed := flusher.completed + 1 }
        | .error _ => { flusher with failed := flusher.failed + 1 }
      match callback? with
      | none => (counted, [.task completion.sequel])
      | some callback =>
          (counted, [.call (.notify callback completion.outcome completion.sequel)])
  | .succeed =>
      match flusher.phase with
      | .iterating => (flusher, [.task .mark])
      | .pending => (flusher, [.task .resume])
      | .terminated => (flusher, [.task (.drain false)])
      | .idle | .called => (flusher, [])
  | .mark =>
      match flusher.phase with
      | .iterating => ({ flusher with phase := .called }, [])
      | _ => (flusher, [.task .succeed])
  | .resume =>
      match flusher.phase with
      | .pending => ({ flusher with phase := .iterating }, [.task .take])
      | _ => (flusher, [.task .succeed])
  | .fail =>
      ({ flusher with phase := .terminated },
        [.task (.drain (decide (flusher.phase ≠ .terminated)))])
  | .drain report =>
      ({ flusher with queue := [] }, [.task (.refuseAll flusher.queue report)])
  | .refuseAll [] report => (flusher, if report then [.call .failure] else [])
  | .refuseAll (entry :: rest) report =>
      ({ flusher with failed := flusher.failed + 1 },
        [.call (.notify entry.callback (.error .closed) (.refuseAll rest report))])
  | .close => ({ flusher with phase := .terminated }, [.task (.drain false)])

/-- How the flusher goes on when a request has been met. -/
def resumed : Request Callback → List (FlusherFrame Callback)
  | .write _ _ => [.task .written]
  | .notify _ _ next => [.task next]
  | .failure => []

/-- How the flusher begins with what is asked of it. -/
def begun : Method Callback → Task Callback
  | .offer entry => .count entry
  | .iterate => .iterate
  | .close => .close
  | .complete ticket completion => .redeem ticket completion

def component (Callback : Type) :
    Component (Flusher Callback) (Task Callback) (Request Callback) (Method Callback)
      (fun _ => Unit) where
  body method := [.task (begun method)]
  step := step
  resume request _ := resumed request

end DatagramMux.Flusher
