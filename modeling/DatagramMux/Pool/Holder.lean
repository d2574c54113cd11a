import DatagramMux.Pool.BufferPool

/-!
# A holder of buffers

Somebody who borrows buffers from a pool, writes to them, splits them and gives them back. The
buffers are numbered in the order in which they come into the holder's hands.
-/

namespace DatagramMux

/-- A pool and the buffers in somebody's hands; a number that was given back holds nothing. -/
structure BufferHolder where
  pool : BufferPool
  hands : List (Option Buffer) := []
  deriving DecidableEq, Repr

namespace BufferHolder

inductive Request where
  | acquire (least : Nat)
  /-- Writes as many of the bytes as there is room for, so that the buffer does not grow. -/
  | append (number : Nat) (bytes : Bytes)
  /-- Writes all of the bytes; if the buffer grows, there is this much room to spare. -/
  | extend (number : Nat) (bytes : Bytes) (spare : Nat)
  | split (number : Nat)
  | release (number : Nat)
  /-- Gives the pool a buffer that did not come from it. -/
  | releaseForeign (buffer : Buffer)
  deriving DecidableEq, Repr

/-- What a holder sees of a request. -/
inductive Outcome where
  | nothing
  | one (buffer : Buffer)
  | two (first second : Buffer)
  deriving DecidableEq, Repr

/-- The buffer of a number, if it is still in the holder's hands. -/
def held? (holder : BufferHolder) (number : Nat) : Option Buffer :=
  (holder.hands[number]?).join

/-- Carries out one request; there is no outcome if it names a buffer that is not in hand. -/
def perform (holder : BufferHolder) : Request → Option (BufferHolder × Outcome)
  | .acquire least =>
      let (pool, buffer) := holder.pool.acquire least
      some (⟨pool, holder.hands ++ [some buffer]⟩, .one buffer)
  | .append number bytes => do
      let held ← holder.held? number
      let buffer := held.extend (bytes.take held.room) 0
      return ({ holder with hands := holder.hands.set number (some buffer) }, .one buffer)
  | .extend number bytes spare => do
      let buffer := (← holder.held? number).extend bytes spare
      return ({ holder with hands := holder.hands.set number (some buffer) }, .one buffer)
  | .split number => do
      let (written, left) := (← holder.held? number).split
      return ({ holder with hands := holder.hands.set number (some left) ++ [some written] },
        .two written left)
  | .release number => do
      let buffer ← holder.held? number
      return (⟨holder.pool.release buffer, holder.hands.set number none⟩, .nothing)
  | .releaseForeign buffer =>
      some ({ holder with pool := holder.pool.release buffer }, .nothing)

end BufferHolder

end DatagramMux
