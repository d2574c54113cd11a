import DatagramMux.Packet.ConnectionId
import Mathlib.Algebra.Group.Nat.Defs
import Mathlib.Data.List.Basic

/-!
# Which packets carry an identifier

The two header forms as a grammar: what a packet with a long header and what one with a short header
looks like when it carries a given identifier. An identifier is read out of exactly these packets.

Reading can also be described byte by byte, with positions that are machine words. Nothing goes wrong
then: no byte is asked for at a position that the packet does not have, and no position overflows.
-/

namespace DatagramMux.ConnectionId

/-! ## The grammar -/

/--
Packets with a long header that carry an identifier: flags with the top bit set, four bytes of
version, the length of the identifier, the identifier, and anything else.
-/
inductive LongHeader (identifier : Bytes) : Bytes → Prop where
  | intro (flags : UInt8) (version rest : Bytes) : 128 ≤ flags.toNat → version.length = 4 →
      identifier.length ≤ 20 →
        LongHeader identifier
          ([flags] ++ version ++ [.ofNat identifier.length] ++ identifier ++ rest)

/--
Packets with a short header that carry an identifier: flags with the top bit clear, the identifier,
and anything else.
-/
inductive ShortHeader (identifier : Bytes) : Bytes → Prop where
  | intro (flags : UInt8) (rest : Bytes) : flags.toNat < 128 →
      ShortHeader identifier ([flags] ++ identifier ++ rest)

variable {packet identifier : Bytes} {localLength : Nat}

theorem LongHeader.append (header : LongHeader identifier packet) (more : Bytes) :
    LongHeader identifier (packet ++ more) := by
  obtain ⟨flags, version, rest, top, four, short⟩ := header
  rw [List.append_assoc _ rest]
  exact .intro flags version (rest ++ more) top four short

theorem ShortHeader.append (header : ShortHeader identifier packet) (more : Bytes) :
    ShortHeader identifier (packet ++ more) := by
  obtain ⟨flags, rest, top⟩ := header
  rw [List.append_assoc _ rest]
  exact .intro flags (rest ++ more) top

theorem ofByte_eq_short_iff (flags : UInt8) :
    HeaderForm.ofByte flags = .short ↔ flags.toNat < 128 := by
  have all : ∀ value : Fin 256,
      HeaderForm.ofByte (.ofNat value) = .short ↔ value.val < 128 := by decide +kernel
  simpa using all ⟨flags.toNat, flags.toNat_lt⟩

theorem ofByte_eq_long_iff (flags : UInt8) :
    HeaderForm.ofByte flags = .long ↔ 128 ≤ flags.toNat := by
  rw [← Nat.not_lt, ← ofByte_eq_short_iff]
  cases HeaderForm.ofByte flags <;> simp

/-! ## What is read out of a header -/

theorem ofPacket?_of_long {flags : UInt8} {rest : Bytes} (top : 128 ≤ flags.toNat) :
    ofPacket? (flags :: rest) localLength = some ⟨identifier⟩ ↔
      ∃ length : UInt8, rest[4]? = some length ∧ length.toNat ≤ 20 ∧
        Bytes.slice? (flags :: rest) 6 length.toNat = some identifier := by
  simp only [ofPacket?, HeaderForm.of?_cons, (ofByte_eq_long_iff flags).2 top, longOffset, maxLength,
    List.getElem?_cons_succ]
  cases rest[4]? with
  | none => simp
  | some length =>
      by_cases long : 20 < length.toNat
      · simp [long, Nat.not_le.2 long]
      · simp [long, Nat.not_lt.1 long]

theorem ofPacket?_of_short {flags : UInt8} {rest : Bytes} (top : flags.toNat < 128) :
    ofPacket? (flags :: rest) localLength = some ⟨identifier⟩ ↔
      Bytes.slice? (flags :: rest) 1 localLength = some identifier := by
  simp [ofPacket?, (ofByte_eq_short_iff flags).2 top]

theorem LongHeader.ofPacket? (header : LongHeader identifier packet) (localLength : Nat) :
    ofPacket? packet localLength = some ⟨identifier⟩ := by
  obtain ⟨flags, version, rest, top, four, short⟩ := header
  have length : (UInt8.ofNat identifier.length).toNat = identifier.length := by
    rw [UInt8.toNat_ofNat']
    omega
  simp only [List.cons_append]
  rw [ofPacket?_of_long top]
  refine ⟨.ofNat identifier.length, ?_, by omega, ?_⟩
  · simp [four]
  · rw [length, Bytes.slice?_eq_some_iff]
    refine ⟨flags :: version ++ [.ofNat identifier.length], rest, by simp, ?_, rfl⟩
    simp [four]

theorem ShortHeader.ofPacket? (header : ShortHeader identifier packet) :
    ofPacket? packet identifier.length = some ⟨identifier⟩ := by
  obtain ⟨flags, rest, top⟩ := header
  simp only [List.cons_append]
  rw [ofPacket?_of_short top, Bytes.slice?_eq_some_iff]
  exact ⟨[flags], rest, by simp, rfl, rfl⟩

/-- Six bytes are the flags, four bytes of version, and one byte more. -/
theorem exists_of_length_six {before : Bytes} (six : before.length = 6) :
    ∃ (flags : UInt8) (version : Bytes) (last : UInt8),
      before = [flags] ++ version ++ [last] ∧ version.length = 4 := by
  obtain ⟨flags, rest, rfl⟩ := List.exists_cons_of_length_eq_add_one six
  obtain rfl | ⟨version, last, rfl⟩ := List.eq_nil_or_concat rest
  · simp at six
  · refine ⟨flags, version, last, by simp, ?_⟩
    simpa using six

theorem ofPacket?_eq_some_iff :
    ofPacket? packet localLength = some ⟨identifier⟩ ↔
      LongHeader identifier packet ∨
        ShortHeader identifier packet ∧ identifier.length = localLength := by
  constructor
  · intro read
    cases packet with
    | nil => simp [ofPacket?] at read
    | cons flags rest =>
        by_cases top : flags.toNat < 128
        · rw [ofPacket?_of_short top, Bytes.slice?_eq_some_iff] at read
          obtain ⟨before, after, whole, one, length⟩ := read
          obtain ⟨first, rfl⟩ := List.length_eq_one_iff.1 one
          obtain ⟨rfl, rfl⟩ : flags = first ∧ rest = identifier ++ after := by simpa using whole
          right
          exact ⟨.intro flags after top, length⟩
        · have top := Nat.not_lt.1 top
          rw [ofPacket?_of_long top] at read
          obtain ⟨length, found, short, part⟩ := read
          rw [Bytes.slice?_eq_some_iff] at part
          obtain ⟨before, after, whole, six, exact⟩ := part
          obtain ⟨first, version, last, rfl, four⟩ := exists_of_length_six six
          obtain ⟨rfl, rfl⟩ : flags = first ∧
              rest = version ++ [last] ++ identifier ++ after := by simpa using whole
          -- The byte that was found is the last of the six, so it is the length of the identifier.
          obtain rfl : last = length := by simpa [List.getElem?_append, four] using found
          have header := LongHeader.intro flags version after top four (exact ▸ short)
          left
          simpa [exact] using header
  · rintro (long | ⟨short, rfl⟩)
    · exact long.ofPacket? localLength
    · exact short.ofPacket?

/-- What follows a header does not matter. -/
theorem ofPacket?_append (read : ofPacket? packet localLength = some ⟨identifier⟩) (more : Bytes) :
    ofPacket? (packet ++ more) localLength = some ⟨identifier⟩ := by
  rw [ofPacket?_eq_some_iff] at read ⊢
  rcases read with long | ⟨short, length⟩
  · exact .inl (long.append more)
  · exact .inr ⟨short.append more, length⟩

/-- A packet that was cut off carries the same identifier as before, or none. -/
theorem ofPacket?_take (read : ofPacket? packet localLength = some ⟨identifier⟩) (kept : Nat) :
    ofPacket? (packet.take kept) localLength = none ∨
      ofPacket? (packet.take kept) localLength = some ⟨identifier⟩ := by
  cases cut : ofPacket? (packet.take kept) localLength with
  | none => exact .inl rfl
  | some other =>
      have whole := ofPacket?_append cut (packet.drop kept)
      rw [List.take_append_drop, read] at whole
      exact .inr whole.symm

/-! ## Reading at positions -/

/-- What can go wrong when bytes are read at positions that are machine words. -/
inductive PositionFault where
  /-- A byte is asked for where there is none. -/
  | outOfRange
  /-- A position is too large for a machine word. -/
  | overflow
  deriving DecidableEq, Repr

/-- The byte at a position; there must be one. -/
def byteAt (bytes : Bytes) (position : UInt64) : Except PositionFault UInt8 :=
  match bytes[position.toNat]? with
  | some byte => .ok byte
  | none => .error .outOfRange

/-- The position that is some way further on; it must be a machine word. -/
def further (position distance : UInt64) : Except PositionFault UInt64 :=
  if position.toNat + distance.toNat < 2 ^ 64 then .ok (position + distance) else .error .overflow

/-- The bytes between two positions, if there are all of them. -/
def between? (bytes : Bytes) (start stop : UInt64) : Option Bytes :=
  if start ≤ stop ∧ stop.toNat ≤ bytes.length then
    some ((bytes.drop start.toNat).take (stop - start).toNat)
  else none

/-- The bytes from a position on, if there are that many. -/
def partAt? (bytes : Bytes) (start length : UInt64) : Except PositionFault (Option Bytes) := do
  let stop ← further start length
  return between? bytes start stop

/-- Reads the identifier out of a packet's header, byte by byte. -/
def readAt (packet : Bytes) (localLength : UInt64) :
    Except PositionFault (Option ConnectionId) := do
  match HeaderForm.of? packet with
  | none => return none
  | some .long =>
      if packet.length < longOffset then return none
      let length ← byteAt packet (.ofNat (longOffset - 1))
      if maxLength < length.toNat then return none
      let part? ← partAt? packet (.ofNat longOffset) (.ofNat length.toNat)
      return part?.map ConnectionId.mk
  | some .short =>
      let part? ← partAt? packet 1 localLength
      return part?.map ConnectionId.mk

theorem toNat_word {value : Nat} (word : value < 2 ^ 64) : (UInt64.ofNat value).toNat = value := by
  rw [UInt64.toNat_ofNat', Nat.mod_eq_of_lt word]

theorem byteAt_eq_ok {bytes : Bytes} {position : Nat} (word : position < 2 ^ 64)
    (inside : position < bytes.length) : byteAt bytes (.ofNat position) = .ok bytes[position] := by
  simp only [byteAt, toNat_word word, List.getElem?_eq_getElem inside]

theorem partAt?_eq_ok {bytes : Bytes} {start length : UInt64}
    (within : start.toNat + length.toNat < 2 ^ 64) :
    partAt? bytes start length = .ok (bytes.slice? start.toNat length.toNat) := by
  have stop : (start + length).toNat = start.toNat + length.toNat := by
    rw [UInt64.toNat_add, Nat.mod_eq_of_lt within]
  have room : start ≤ start + length := by
    rw [UInt64.le_iff_toNat_le, stop]
    exact Nat.le_add_right _ _
  have distance : start + length - start = length := by
    rw [UInt64.add_comm, UInt64.add_sub_cancel]
  have part : between? bytes start (start + length) = bytes.slice? start.toNat length.toNat := by
    simp only [between?, Bytes.slice?, room, stop, distance, true_and]
  simp only [partAt?, further, if_pos within, ← part]
  rfl

theorem readAt_of_short (packet : Bytes) (within : localLength < 2 ^ 64 - 1)
    (form : HeaderForm.of? packet = some .short) :
    readAt packet (.ofNat localLength) = .ok (ofPacket? packet localLength) := by
  have word := toNat_word (show localLength < 2 ^ 64 by omega)
  have fits : (1 : UInt64).toNat + (UInt64.ofNat localLength).toNat < 2 ^ 64 := by
    rw [word, UInt64.toNat_one]
    omega
  simp only [readAt, ofPacket?, form, partAt?_eq_ok fits, word]
  rfl

theorem readAt_of_long (packet : Bytes) (localLength : Nat)
    (form : HeaderForm.of? packet = some .long) :
    readAt packet (.ofNat localLength) = .ok (ofPacket? packet localLength) := by
  simp only [readAt, ofPacket?, form]
  by_cases truncated : packet.length < longOffset
  · have absent : packet[longOffset - 1]? = none := List.getElem?_eq_none (by omega)
    simp only [truncated, absent, if_true]
    rfl
  · have inside : longOffset - 1 < packet.length := by
      simp only [longOffset] at truncated ⊢
      omega
    simp only [truncated, if_false, byteAt_eq_ok (by decide) inside, List.getElem?_eq_getElem inside]
    -- From here on only the value of the byte counts.
    generalize packet[longOffset - 1] = length
    by_cases long : maxLength < length.toNat
    · simp only [bind, Except.bind, long, if_true]
      rfl
    · have small := toNat_word (show length.toNat < 2 ^ 64 by have := length.toNat_lt; omega)
      have fits : (UInt64.ofNat longOffset).toNat + (UInt64.ofNat length.toNat).toNat < 2 ^ 64 := by
        have offset : (UInt64.ofNat longOffset).toNat = 6 := rfl
        have := length.toNat_lt
        omega
      simp only [bind, Except.bind, long, if_false, partAt?_eq_ok fits, small]
      rfl

/--
Whatever the packet, no byte is asked for where there is none, and unless the local length is the
largest machine word no position overflows; the outcome is the identifier, if there is one.
-/
theorem readAt_eq_ok (packet : Bytes) (within : localLength < 2 ^ 64 - 1) :
    readAt packet (.ofNat localLength) = .ok (ofPacket? packet localLength) := by
  cases form : HeaderForm.of? packet with
  | none => simp only [readAt, ofPacket?, form]; rfl
  | some shape =>
      cases shape with
      | long => exact readAt_of_long packet localLength form
      | short => exact readAt_of_short packet within form

/-- The bound is sharp: a packet with a short header is read past the largest machine word. -/
theorem readAt_eq_overflow {flags : UInt8} (top : flags.toNat < 128) (rest : Bytes) :
    readAt (flags :: rest) (.ofNat (2 ^ 64 - 1)) = .error .overflow := by
  simp only [readAt, HeaderForm.of?_cons, (ofByte_eq_short_iff flags).2 top]
  rfl

/-! ## The whole -/

/--
An identifier is read out of exactly the packets of the grammar, without a fault. What follows the
header does not matter, cutting a packet off never changes its identifier into another one, and as
long as an identifier has the agreed length, both forms lead to the same routing key.
-/
theorem reads_exactly_grammar (within : localLength < 2 ^ 64 - 1) (packet identifier : Bytes) :
    (ofPacket? packet localLength = some ⟨identifier⟩ ↔
        LongHeader identifier packet ∨
          ShortHeader identifier packet ∧ identifier.length = localLength) ∧
      readAt packet (.ofNat localLength) = .ok (ofPacket? packet localLength) ∧
      (ofPacket? packet localLength = some ⟨identifier⟩ →
        (∀ more, ofPacket? (packet ++ more) localLength = some ⟨identifier⟩) ∧
          ∀ kept, ofPacket? (packet.take kept) localLength = none ∨
            ofPacket? (packet.take kept) localLength = some ⟨identifier⟩) ∧
      (identifier.length = localLength → localLength ≤ 20 → ∀ long short,
        LongHeader identifier long → ShortHeader identifier short →
          ofPacket? long localLength = some ⟨identifier⟩ ∧
            ofPacket? short localLength = some ⟨identifier⟩) := by
  refine ⟨ofPacket?_eq_some_iff, readAt_eq_ok packet within, fun read => ?_, ?_⟩
  · exact ⟨ofPacket?_append read, ofPacket?_take read⟩
  · rintro rfl - long short longHeader shortHeader
    exact ⟨longHeader.ofPacket? _, shortHeader.ofPacket?⟩

/-- Both forms of a packet for one client, the long one also cut off within the identifier. -/
theorem same_key_in_both_forms :
    let long : Bytes := [0xc3, 0, 0, 0, 1, 2, 7, 9, 0]
    let short : Bytes := [0x43, 7, 9, 5]
    2 < 2 ^ 64 - 1 ∧ ofPacket? long 2 = some ⟨[7, 9]⟩ ∧ ofPacket? short 2 = some ⟨[7, 9]⟩ ∧
      ofPacket? (long ++ short) 2 = some ⟨[7, 9]⟩ ∧ ofPacket? (long.take 7) 2 = none ∧
        readAt (long.take 7) 2 = .ok none := by
  intro long short
  have longHeader : LongHeader [7, 9] long := .intro 0xc3 [0, 0, 0, 1] [0] (by decide) rfl (by decide)
  have shortHeader : ShortHeader [7, 9] short := .intro 0x43 [5] (by decide)
  obtain ⟨-, -, further, same⟩ :=
    reads_exactly_grammar (show 2 < 2 ^ 64 - 1 by decide) long [7, 9]
  obtain ⟨longKey, shortKey⟩ := same rfl (by decide) long short longHeader shortHeader
  obtain ⟨accepts, reads, -, -⟩ :=
    reads_exactly_grammar (show 2 < 2 ^ 64 - 1 by decide) (long.take 7) [7, 9]
  have none : ofPacket? (long.take 7) 2 = none := by decide
  exact ⟨by decide, longKey, shortKey, (further longKey).1 short, none, reads.trans (by rw [none])⟩

end DatagramMux.ConnectionId
