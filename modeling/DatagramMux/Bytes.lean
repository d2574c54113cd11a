/-!
# Byte strings

Datagrams, connection identifiers and buffers all hold byte strings. This module fixes their type
and the two ways in which they are written: in full as hexadecimal text, which can be read back, and
as a short fingerprint when they are long.
-/

namespace DatagramMux

abbrev Bytes := List UInt8

namespace Bytes

/-- The lower-case hexadecimal digit of a number below sixteen. -/
def hexDigit (value : Nat) : Char :=
  if value < 10 then Char.ofNat (48 + value) else Char.ofNat (87 + value)

/-- The lower-case hexadecimal digits of a byte string, two for each byte. -/
def hexDigits (bytes : Bytes) : List Char :=
  bytes.flatMap fun byte => [hexDigit (byte.toNat / 16), hexDigit (byte.toNat % 16)]

def toHex (bytes : Bytes) : String := String.ofList (hexDigits bytes)

/-- The number below sixteen that a hexadecimal digit stands for, in either case. -/
def hexValue? (char : Char) : Option Nat :=
  if '0' ≤ char ∧ char ≤ '9' then some (char.toNat - 48)
  else if 'a' ≤ char ∧ char ≤ 'f' then some (char.toNat - 87)
  else if 'A' ≤ char ∧ char ≤ 'F' then some (char.toNat - 55)
  else none

theorem hexValue?_hexDigit {value : Nat} (small : value < 16) :
    hexValue? (hexDigit value) = some value := by
  have all : ∀ digit : Fin 16, hexValue? (hexDigit digit) = some digit.val := by decide
  exact all ⟨value, small⟩

/-- The byte string that hexadecimal digits stand for, which come in pairs. -/
def ofHexDigits? (chars : List Char) : Option Bytes := go chars []
where
  /-- The bytes read so far, latest first, and then those of the digits that are left. -/
  go : List Char → Bytes → Option Bytes
    | [], read => some read.reverse
    | [_], _ => none
    | high :: low :: rest, read =>
        match hexValue? high, hexValue? low with
        | some high, some low => go rest ((16 * high + low).toUInt8 :: read)
        | _, _ => none

theorem ofHexDigits?_go_hexDigits (bytes read : Bytes) :
    ofHexDigits?.go (hexDigits bytes) read = some (read.reverse ++ bytes) := by
  induction bytes generalizing read with
  | nil => simp [hexDigits, ofHexDigits?.go]
  | cons byte rest ih =>
      have unfolded : hexDigits (byte :: rest) =
          hexDigit (byte.toNat / 16) :: hexDigit (byte.toNat % 16) :: hexDigits rest := rfl
      have high : byte.toNat / 16 < 16 := by have := byte.toNat_lt; omega
      have whole : (16 * (byte.toNat / 16) + byte.toNat % 16).toUInt8 = byte := by
        rw [Nat.div_add_mod]; simp
      rw [unfolded, ofHexDigits?.go, hexValue?_hexDigit high,
        hexValue?_hexDigit (Nat.mod_lt _ (by decide))]
      simp only [whole, ih, List.reverse_cons, List.append_assoc, List.cons_append, List.nil_append]

@[simp]
theorem ofHexDigits?_hexDigits (bytes : Bytes) : ofHexDigits? (hexDigits bytes) = some bytes :=
  ofHexDigits?_go_hexDigits bytes []

/-- The byte string that a text of hexadecimal digits stands for. -/
def ofHex? (text : String) : Option Bytes := ofHexDigits? text.toList

@[simp]
theorem ofHex?_toHex (bytes : Bytes) : ofHex? (toHex bytes) = some bytes := by
  simp [ofHex?, toHex]

/-- The 64-bit FNV-1a hash: for each byte in turn, exclusive or and then multiply. -/
def fingerprint (bytes : Bytes) : UInt64 :=
  bytes.foldl (fun hash byte => (hash ^^^ byte.toUInt64) * 0x100000001b3) 0xcbf29ce484222325

/-- The eight bytes of a word, most significant first. -/
def ofWord64 (word : UInt64) : Bytes :=
  [56, 48, 40, 32, 24, 16, 8, 0].map fun shift : UInt64 => (word >>> shift).toUInt8

/-- The four bytes of a word, most significant first. -/
def ofWord32 (word : UInt32) : Bytes :=
  [24, 16, 8, 0].map fun shift : UInt32 => (word >>> shift).toUInt8

/--
A short form: a dash for nothing, hexadecimal text up to forty bytes, else length and fingerprint.
-/
def brief (bytes : Bytes) : String :=
  if bytes.isEmpty then "-"
  else if bytes.length ≤ 40 then toHex bytes
  else toString bytes.length ++ ":" ++ toHex (ofWord64 (fingerprint bytes))

/-- The part of `length` bytes that begins at `start`, if the byte string reaches that far. -/
def slice? (bytes : Bytes) (start length : Nat) : Option Bytes :=
  if start + length ≤ bytes.length then some ((bytes.drop start).take length) else none

theorem slice?_eq_some_iff {bytes part : Bytes} {start length : Nat} :
    slice? bytes start length = some part ↔
      ∃ before after, bytes = before ++ part ++ after ∧ before.length = start ∧
        part.length = length := by
  constructor
  · intro taken
    unfold slice? at taken
    split at taken
    · next fits =>
        cases taken
        refine ⟨bytes.take start, (bytes.drop start).drop length, ?_, ?_, ?_⟩
        · rw [List.append_assoc, List.take_append_drop, List.take_append_drop]
        · rw [List.length_take]; omega
        · rw [List.length_take, List.length_drop]; omega
    · cases taken
  · rintro ⟨before, after, rfl, rfl, rfl⟩
    simp [slice?]

end Bytes

end DatagramMux
