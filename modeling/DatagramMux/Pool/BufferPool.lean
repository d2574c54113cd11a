import DatagramMux.Bytes

/-!
# Pooled buffers

A buffer is a byte string with room for it, which grows if more is written than fits. A pool keeps
released buffers in a free list of bounded length and serves a request with the first one that is
large enough.
-/

namespace DatagramMux

/-- A byte string together with the room that was set aside for it. -/
structure Buffer where
  contents : Bytes := []
  capacity : Nat
  deriving DecidableEq, Repr

namespace Buffer

def empty (capacity : Nat) : Buffer := ⟨[], capacity⟩

/-- Forgets the contents and keeps the room. -/
def clear (buffer : Buffer) : Buffer := { buffer with contents := [] }

@[simp]
theorem contents_clear (buffer : Buffer) : buffer.clear.contents = [] := rfl

@[simp]
theorem capacity_clear (buffer : Buffer) : buffer.clear.capacity = buffer.capacity := rfl

/-- Fills the room up to its end with zero bytes. -/
def fillUp (buffer : Buffer) : Buffer :=
  { buffer with
    contents := buffer.contents ++ List.replicate (buffer.capacity - buffer.contents.length) 0 }

/-- Writes bytes over the beginning of the contents, as many as the contents have. -/
def overwrite (buffer : Buffer) (bytes : Bytes) : Buffer :=
  let written := bytes.take buffer.contents.length
  { buffer with contents := written ++ buffer.contents.drop written.length }

/-- Keeps the first bytes of the contents. -/
def truncate (buffer : Buffer) (length : Nat) : Buffer :=
  { buffer with contents := buffer.contents.take length }

theorem length_fillUp {buffer : Buffer} (empty : buffer.contents = []) :
    buffer.fillUp.contents.length = buffer.capacity := by
  simp [fillUp, empty]

/-- What was in a buffer before is overwritten or cut off. -/
theorem contents_received {buffer : Buffer} (empty : buffer.contents = []) (datagram : Bytes) :
    ((buffer.fillUp.overwrite datagram).truncate (min datagram.length buffer.capacity)).contents =
      datagram.take (min datagram.length buffer.capacity) := by
  simp only [overwrite, truncate, length_fillUp empty]
  rw [Nat.min_comm, ← List.length_take, List.take_left, List.length_take, ← List.take_eq_take_min]

/-- How many bytes may be written behind the contents before the buffer has to grow. -/
def room (buffer : Buffer) : Nat := buffer.capacity - buffer.contents.length

/--
Writes bytes behind the contents. If there is too little room for them, the buffer grows by what is
missing and by what the allocator gives in addition.
-/
def extend (buffer : Buffer) (bytes : Bytes) (spare : Nat) : Buffer where
  contents := buffer.contents ++ bytes
  capacity :=
    if bytes.length ≤ buffer.room then buffer.capacity
    else buffer.contents.length + bytes.length + spare

/-- Separates the written part, which becomes a full buffer, from the room that is left. -/
def split (buffer : Buffer) : Buffer × Buffer :=
  (⟨buffer.contents, buffer.contents.length⟩, .empty buffer.room)

end Buffer

structure BufferPool where
  /-- The released buffers that wait to be used again. -/
  free : List Buffer := []
  /-- How many buffers are kept at most. -/
  limit : Nat := 64
  /-- How many buffers were ever asked for. -/
  acquired : UInt64 := 0
  /-- How many buffers were ever given back. -/
  released : UInt64 := 0
  deriving DecidableEq, Repr

namespace BufferPool

def new (limit : Nat) : BufferPool := { limit := limit }

/-- The list without the element at a position, whose place the last element takes. -/
def swapRemove {α : Type} (list : List α) (position : Nat) : List α :=
  match list.getLast? with
  | none => []
  | some last => (list.set position last).dropLast

/-- Hands out the first free buffer that is large enough, emptied, or else a new one. -/
def acquire (pool : BufferPool) (least : Nat) : BufferPool × Buffer :=
  let pool := { pool with acquired := pool.acquired + 1 }
  match pool.free.findIdx? fun buffer => least ≤ buffer.capacity with
  | none => (pool, .empty least)
  | some position =>
      ({ pool with free := swapRemove pool.free position },
        (pool.free.getD position (.empty least)).clear)

theorem contents_acquire (pool : BufferPool) (least : Nat) :
    (pool.acquire least).2.contents = [] := by
  simp only [acquire]
  split <;> rfl

theorem le_capacity_acquire (pool : BufferPool) (least : Nat) :
    least ≤ (pool.acquire least).2.capacity := by
  simp only [acquire]
  split
  · exact Nat.le_refl _
  · next position found =>
      obtain ⟨inside, large, _⟩ := List.findIdx?_eq_some_iff_getElem.1 found
      simpa [List.getD_eq_getElem?_getD, inside] using large

/-- Takes a buffer back. It is kept if it has room at all and the free list is not full. -/
def release (pool : BufferPool) (buffer : Buffer) : BufferPool :=
  let pool := { pool with released := pool.released + 1 }
  if buffer.capacity = 0 then pool
  else if pool.free.length < pool.limit then { pool with free := pool.free ++ [buffer.clear] }
  else pool

/-- How many buffers are in use; never less than zero. -/
def outstanding (pool : BufferPool) : UInt64 :=
  if pool.acquired < pool.released then 0 else pool.acquired - pool.released

/-- How many free buffers are kept. -/
def retained (pool : BufferPool) : Nat := pool.free.length

end BufferPool

end DatagramMux
