import DatagramMux.Echo.Basic
import DatagramMux.Packet.ConnectionId
import DatagramMux.Pool.BufferPool
import DatagramMux.Proofs.Endpoint.Surroundings

/-!
# What an echo server is to do

The datagrams of known clients are sent back to where they came from, and so is the first datagram
of an unknown client, which is known from then on, unless there are too many clients. All else is
passed over.
-/

namespace DatagramMux.Echo

/-- The identifiers that are known, and the datagrams that were sent back, oldest first. -/
structure Reference where
  known : List ConnectionId := []
  output : List Parcel := []
  deriving DecidableEq

/--
Whether a datagram may be the first of a client: the top bit of its first byte is set, the next bits
but one are clear, and it has a minimum length.
-/
def opens : Bytes → Bool
  | [] => false
  | first :: rest => first &&& 0x80 ≠ 0 && first &&& 0x30 = 0 && 1200 ≤ (first :: rest).length

namespace Reference

def sendBack (reference : Reference) (parcel : Parcel) : Reference :=
  { reference with output := reference.output ++ [parcel] }

def learn (reference : Reference) (identifier : ConnectionId) : Reference :=
  { reference with known := reference.known ++ [identifier] }

/-- What becomes of a datagram, with the length of local identifiers and the limit for clients. -/
def answer (localLength limit : Nat) (reference : Reference) (parcel : Parcel) : Reference :=
  match ConnectionId.ofPacket? parcel.2 localLength with
  | none => reference
  | some identifier =>
      if identifier ∈ reference.known then reference.sendBack parcel
      else if opens parcel.2 ∧ reference.known.length < limit then
        (reference.learn identifier).sendBack parcel
      else reference

variable {localLength limit : Nat} {reference : Reference} {parcel : Parcel}
variable {identifier : ConnectionId}

theorem answer_of_none (unnamed : ConnectionId.ofPacket? parcel.2 localLength = none) :
    reference.answer localLength limit parcel = reference := by
  simp only [answer, unnamed]

theorem answer_of_known (named : ConnectionId.ofPacket? parcel.2 localLength = some identifier)
    (known : identifier ∈ reference.known) :
    reference.answer localLength limit parcel = reference.sendBack parcel := by
  simp only [answer, named, known, if_true]

theorem answer_of_opening (named : ConnectionId.ofPacket? parcel.2 localLength = some identifier)
    (unknown : identifier ∉ reference.known) (first : opens parcel.2 = true)
    (room : reference.known.length < limit) :
    reference.answer localLength limit parcel = (reference.learn identifier).sendBack parcel := by
  simp only [answer, named, unknown, first, room, if_false, and_self, if_true]

theorem answer_of_refused (named : ConnectionId.ofPacket? parcel.2 localLength = some identifier)
    (unknown : identifier ∉ reference.known)
    (refused : ¬ (opens parcel.2 = true ∧ reference.known.length < limit)) :
    reference.answer localLength limit parcel = reference := by
  simp only [answer, named, unknown, refused, if_false]

/-- Nothing is sent back but what arrived, in the order in which it arrived. -/
theorem output_answers (localLength limit : Nat) (reference : Reference) (parcels : List Parcel) :
    ∃ answers, answers.Sublist parcels ∧
      (parcels.foldl (answer localLength limit) reference).output =
        reference.output ++ answers := by
  induction parcels generalizing reference with
  | nil => exact ⟨[], .slnil, (List.append_nil _).symm⟩
  | cons parcel others ih =>
      obtain ⟨answers, sublist, output⟩ := ih (reference.answer localLength limit parcel)
      have first : (reference.answer localLength limit parcel).output = reference.output ∨
          (reference.answer localLength limit parcel).output = reference.output ++ [parcel] := by
        unfold answer
        split
        · exact .inl rfl
        · split
          · exact .inr rfl
          · split
            · exact .inr rfl
            · exact .inl rfl
      rcases first with passed | sent
      · exact ⟨answers, sublist.cons parcel, by rw [List.foldl_cons, output, passed]⟩
      · exact ⟨parcel :: answers, sublist.cons_cons parcel, by
          rw [List.foldl_cons, output, sent, List.append_assoc, List.singleton_append]⟩

end Reference

theorem isInitial_eq_opens (datagram : Bytes) : isInitial datagram = opens datagram := by
  cases datagram with
  | nil => rfl
  | cons first rest =>
      by_cases short : first &&& 0x80 = 0 <;>
        simp [isInitial, opens, HeaderForm.ofByte, minInitialLength, short]

/-- A datagram that fits a buffer lies there as it arrived. -/
theorem take_receive {buffer : Buffer} {datagram : Bytes} (empty : buffer.contents = [])
    (fits : datagram.length ≤ buffer.capacity) :
    ((buffer.fillUp.overwrite datagram).truncate
      (min datagram.length buffer.fillUp.contents.length)).contents.take
        (min datagram.length buffer.fillUp.contents.length) = datagram := by
  rw [Buffer.length_fillUp empty, Buffer.contents_received empty, Nat.min_eq_left fits,
    List.take_length, List.take_length]

end DatagramMux.Echo
