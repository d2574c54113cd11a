/-!
# Socket addresses

The address of a datagram's sender or receiver: an internet address of either family with the number
that tells apart the sockets of one host. The text of an address is canonical. In the longer family
the first longest run of at least two zero groups is written as two colons, and an address that
stands for one of the shorter family ends in that address.
-/

namespace DatagramMux

inductive SocketAddress where
  | v4 (first second third fourth : UInt8) (portNumber : UInt16)
  | v6 (groups : Vector UInt16 8) (scope : UInt32) (portNumber : UInt16)
  deriving DecidableEq

namespace SocketAddress

/-- The address of every interface, with the number that the protocol is usually served on. -/
def unspecified : SocketAddress := .v4 0 0 0 0 4433

instance : Inhabited SocketAddress := ⟨unspecified⟩

/-! ## Writing -/

def quadText (first second third fourth : UInt8) : String :=
  ".".intercalate ([first, second, third, fourth].map fun byte => toString byte.toNat)

/-- The hexadecimal text of a group, without leading zeros. -/
def groupText (group : UInt16) : String := String.ofList (Nat.toDigits 16 group.toNat)

def groupsText (groups : List UInt16) : String := ":".intercalate (groups.map groupText)

/-- How many zero groups stand at the head of a list. -/
def leadingZeros (groups : List UInt16) : Nat := (groups.takeWhile (· == 0)).length

/-- The start and length of the first longest run of zero groups. -/
def longestZeroRun (groups : List UInt16) : Nat × Nat :=
  (List.range groups.length).foldl
    (fun best start =>
      let length := leadingZeros (groups.drop start)
      if best.2 < length then (start, length) else best)
    (0, 0)

def longText (groups : List UInt16) : String :=
  match groups with
  | [0, 0, 0, 0, 0, 0xffff, high, low] =>
      "::ffff:" ++
        quadText (high >>> 8).toUInt8 high.toUInt8 (low >>> 8).toUInt8 low.toUInt8
  | _ =>
      let run := longestZeroRun groups
      if 1 < run.2 then
        groupsText (groups.take run.1) ++ "::" ++ groupsText (groups.drop (run.1 + run.2))
      else groupsText groups

def text : SocketAddress → String
  | .v4 first second third fourth portNumber =>
      quadText first second third fourth ++ ":" ++ toString portNumber.toNat
  | .v6 groups scope portNumber =>
      let scopeText := if scope = 0 then "" else "%" ++ toString scope.toNat
      "[" ++ longText groups.toList ++ scopeText ++ "]:" ++ toString portNumber.toNat

instance : ToString SocketAddress := ⟨text⟩

/-! ## Reading

A reader takes characters from the front of a text and returns what it read with the rest.
-/

/-- The value of a digit in a radix of at most sixteen. -/
def digitValue? (radix : Nat) (char : Char) : Option Nat :=
  let value? :=
    if '0' ≤ char ∧ char ≤ '9' then some (char.toNat - 48)
    else if 'a' ≤ char ∧ char ≤ 'f' then some (char.toNat - 87)
    else if 'A' ≤ char ∧ char ≤ 'F' then some (char.toNat - 55)
    else none
  value?.filter (· < radix)

def digitsValue (radix : Nat) (digits : List Char) : Nat :=
  digits.foldl (fun value char => value * radix + (digitValue? radix char).getD 0) 0

/--
Reads all digits that follow. Fails without a digit, with more than `maxDigits`, with a superfluous
leading zero where those are refused, and with a value that is not below `bound`.
-/
def readNumber (radix maxDigits bound : Nat) (zerosLead : Bool) (input : List Char) :
    Option (Nat × List Char) :=
  let digits := input.takeWhile fun char => (digitValue? radix char).isSome
  let value := digitsValue radix digits
  if digits.isEmpty ∨ maxDigits < digits.length ∨ bound ≤ value ∨
      (zerosLead = false ∧ digits.head? = some '0' ∧ 1 < digits.length) then none
  else some (value, input.dropWhile fun char => (digitValue? radix char).isSome)

def readChar (expected : Char) : List Char → Option (List Char)
  | char :: rest => if char = expected then some rest else none
  | [] => none

/-- Reads four numbers below 256 with points between them. -/
def readQuad (input : List Char) : Option ((UInt8 × UInt8 × UInt8 × UInt8) × List Char) := do
  let (first, rest) ← readNumber 10 3 256 false input
  let (second, rest) ← readNumber 10 3 256 false (← readChar '.' rest)
  let (third, rest) ← readNumber 10 3 256 false (← readChar '.' rest)
  let (fourth, rest) ← readNumber 10 3 256 false (← readChar '.' rest)
  return ((first.toUInt8, second.toUInt8, third.toUInt8, fourth.toUInt8), rest)

/-- Reads a colon unless at the first of several items. -/
def readColonBetween (isFirst : Bool) (input : List Char) : Option (List Char) :=
  if isFirst then some input else readChar ':' input

/--
Reads at most `room` groups with colons between them, in the order in which they stand. Four numbers
with points may stand for the last two groups; nothing follows them, which the second component
tells.
-/
def readGroups (isFirst : Bool) : Nat → List Char → List UInt16 × Bool × List Char
  | 0, input => ([], false, input)
  | room + 1, input =>
      let quad? := if 1 ≤ room then (readColonBetween isFirst input).bind readQuad else none
      match quad? with
      | some ((first, second, third, fourth), rest) =>
          ([first.toUInt16 <<< 8 ||| second.toUInt16, third.toUInt16 <<< 8 ||| fourth.toUInt16],
            true, rest)
      | none =>
          match (readColonBetween isFirst input).bind (readNumber 16 4 65536 true) with
          | some (group, rest) =>
              let (groups, endsInQuad, rest) := readGroups false room rest
              (group.toUInt16 :: groups, endsInQuad, rest)
          | none => ([], false, input)

/-- Reads an address of eight groups, of which two colons may stand for a run of zero groups. -/
def readLong (input : List Char) : Option (Vector UInt16 8 × List Char) := do
  let (head, endsInQuad, rest) := readGroups true 8 input
  if complete : head.length = 8 then
    return (⟨head.toArray, by simpa using complete⟩, rest)
  else
    if endsInQuad then none
    let rest ← readChar ':' rest
    let rest ← readChar ':' rest
    let (tail, _, rest) := readGroups true (7 - head.length) rest
    let groups := head ++ List.replicate (8 - head.length - tail.length) 0 ++ tail
    if complete : groups.length = 8 then
      return (⟨groups.toArray, by simpa using complete⟩, rest)
    else none

def readPortNumber (input : List Char) : Option (UInt16 × List Char) := do
  let (portNumber, rest) ← readNumber 10 input.length 65536 true (← readChar ':' input)
  return (portNumber.toUInt16, rest)

def readV4 (input : List Char) : Option (SocketAddress × List Char) := do
  let ((first, second, third, fourth), rest) ← readQuad input
  let (portNumber, rest) ← readPortNumber rest
  return (.v4 first second third fourth portNumber, rest)

/-- Reads the scope of an address, which is zero where none is written. -/
def readScope (input : List Char) : Option (UInt32 × List Char) :=
  match readChar '%' input with
  | none => some (0, input)
  | some rest =>
      (readNumber 10 rest.length UInt32.size true rest).map fun (scope, rest) => (scope.toUInt32, rest)

def readV6 (input : List Char) : Option (SocketAddress × List Char) := do
  let (groups, rest) ← readLong (← readChar '[' input)
  let (scope, rest) ← readScope rest
  let (portNumber, rest) ← readPortNumber (← readChar ']' rest)
  return (.v6 groups scope portNumber, rest)

/-- The socket address that a text denotes, if the whole text is one. -/
def ofText? (source : String) : Option SocketAddress :=
  match readV4 source.toList <|> readV6 source.toList with
  | some (address, []) => some address
  | _ => none

end SocketAddress

end DatagramMux
