import DatagramMux.Address.SocketAddress
import DatagramMux.Error

/-!
# The write flusher

All writes of a connection pass through one queue, and at most one of them is with the endpoint at
any time. This module holds what the flusher remembers: the phase that it is in, the writes that
wait, and the callback of the write that the endpoint has.

A write that is handed to the endpoint comes with a ticket. Whoever holds the ticket may report the
write's completion, once; the tickets that have not been used yet are remembered.
-/

namespace DatagramMux

/-- A write that waits for its turn. -/
structure WriteEntry (Callback : Type) where
  callback : Callback
  address : SocketAddress
  buffers : List Bytes
  deriving DecidableEq

/-- The datagram of a write: its buffers one after the other. -/
def WriteEntry.datagram {Callback : Type} (entry : WriteEntry Callback) : Bytes :=
  entry.buffers.flatten

namespace Flusher

/-- What the flusher is doing. -/
inductive Phase where
  /-- Nothing is queued and nothing is with the endpoint. -/
  | idle
  /-- One thread takes entries from the queue and hands them to the endpoint. -/
  | iterating
  /-- The endpoint has a write and will report its completion later. -/
  | pending
  /-- The completion came before the endpoint returned from the write. -/
  | called
  /-- No further write is handed to the endpoint. -/
  | terminated
  deriving DecidableEq, Repr

/-- What others may know of the phase. -/
inductive Condition where
  | idle
  | processing
  | terminating
  deriving DecidableEq, Repr

/-- The phase as others know it. -/
def Phase.condition : Phase → Condition
  | .idle => .idle
  | .terminated => .terminating
  | .iterating | .pending | .called => .processing

def Condition.name : Condition → String
  | .idle => "Idle"
  | .processing => "Processing"
  | .terminating => "Terminating"

end Flusher

/-- What the flusher remembers. -/
structure Flusher (Callback : Type) where
  phase : Flusher.Phase := .idle
  /-- The writes that wait, oldest first. -/
  queue : List (WriteEntry Callback) := []
  /-- The callback of the write that the endpoint has. -/
  current : Option Callback := none
  submitted : UInt64 := 0
  /-- How many writes succeeded. -/
  completed : UInt64 := 0
  /-- How many writes failed or were refused. -/
  failed : UInt64 := 0
  /-- How many writes were handed to the endpoint; also the next ticket. -/
  handed : Nat := 0
  /-- The tickets that were not used yet. -/
  outstanding : List Nat := []
  deriving DecidableEq

namespace Flusher

variable {Callback : Type}

def new : Flusher Callback := {}

instance : Inhabited (Flusher Callback) := ⟨new⟩

def condition (flusher : Flusher Callback) : Condition := flusher.phase.condition

/-- How many writes wait. -/
def queued (flusher : Flusher Callback) : Nat := flusher.queue.length

end Flusher

end DatagramMux
