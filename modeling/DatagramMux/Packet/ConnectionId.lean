import DatagramMux.Packet.HeaderForm

/-!
# Connection identifiers

A connection identifier is the routing key of a datagram. In a long header one byte of flags and
four bytes of version come first, then the length of the identifier and the identifier itself. In a
short header the identifier follows the flags directly, and its length is a matter of local
agreement.
-/

namespace DatagramMux

/-- An immutable routing key, compared by its bytes. -/
structure ConnectionId where
  bytes : Bytes
  deriving DecidableEq, Repr

namespace ConnectionId

/-- The longest identifier that a long header may announce. -/
def maxLength : Nat := 20

/-- How many bytes of a long header precede its identifier: flags, version and length. -/
def longOffset : Nat := 6

def text (identifier : ConnectionId) : String := identifier.bytes.toHex

instance : ToString ConnectionId := ⟨text⟩

/--
Reads the destination identifier out of a packet's header. There is none in an empty packet, in a
truncated header, or in a long header that announces more than `maxLength` bytes.
-/
def ofPacket? (packet : Bytes) (localLength : Nat) : Option ConnectionId :=
  match HeaderForm.of? packet with
  | none => none
  | some .long =>
      match packet[longOffset - 1]? with
      | none => none
      | some length =>
          if maxLength < length.toNat then none
          else (packet.slice? longOffset length.toNat).map ConnectionId.mk
  | some .short => (packet.slice? 1 localLength).map ConnectionId.mk

end ConnectionId

/-- The least length of a client's first datagram. -/
def minInitialLength : Nat := 1200

end DatagramMux
