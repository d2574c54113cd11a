import DatagramMux.Bytes

/-!
# The two header forms

The top bit of a packet's first byte tells the two header forms apart, whatever the version of the
protocol: set for a long header, which carries the length of its connection identifier, and clear
for a short one, which does not.
-/

namespace DatagramMux

inductive HeaderForm where
  | long
  | short
  deriving DecidableEq, Repr

namespace HeaderForm

def ofByte (first : UInt8) : HeaderForm := if first &&& 0x80 = 0 then .short else .long

/-- The form of a packet; an empty one has none. -/
def of? : Bytes → Option HeaderForm
  | [] => none
  | first :: _ => some (ofByte first)

@[simp]
theorem of?_nil : of? [] = none := rfl

@[simp]
theorem of?_cons (first : UInt8) (rest : Bytes) : of? (first :: rest) = some (ofByte first) := rfl

end HeaderForm

end DatagramMux
