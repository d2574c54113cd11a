import DatagramMux.CommandLine.Settings

/-!
# Reading a command line

Arguments are read from left to right. A name that needs a value takes the one attached to it by an
equals sign, or attached directly in the case of a short name, or else the next argument, unless
that begins with a dash. A value that follows as an argument of its own is looked at only when the
next name or the end is reached, and an unknown name is reported before that.
-/

namespace DatagramMux.CommandLine

/-- Why the arguments do not lead to a run. -/
inductive Failure where
  | help
  | version
  | unknownArgument
  | wrongValue
  | missingValue
  | repeated
  | unexpectedValue
  deriving DecidableEq, Repr

namespace Failure

def name : Failure → String
  | .help => "DisplayHelp"
  | .version => "DisplayVersion"
  | .unknownArgument => "UnknownArgument"
  | .wrongValue => "ValueValidation"
  | .missingValue => "InvalidValue"
  | .repeated => "ArgumentConflict"
  | .unexpectedValue => "TooManyValues"

/-- The exit code that a failure leads to; showing what was asked for is none. -/
def exitCode : Failure → Nat
  | .help | .version => 0
  | _ => 2

def ofInquiry : Inquiry → Failure
  | .help => .help
  | .version => .version

end Failure

/-- What has been read so far. -/
structure Reader where
  settings : Settings := {}
  /-- The settings that were given a value. -/
  given : List Setting := []
  /-- A setting whose value is still to be looked at, with the value if it has been seen. -/
  pending? : Option (Setting × Option String) := none
  /-- Whether two dashes have ended the names. -/
  ended : Bool := false

namespace Reader

def give (reader : Reader) (setting : Setting) (text : String) : Except Failure Reader :=
  if setting ∈ reader.given then .error .repeated
  else
    match reader.settings.set? setting text with
    | none => .error .wrongValue
    | some settings => .ok { reader with settings := settings, given := setting :: reader.given }

/-- Looks at the value that is still to be looked at. -/
def resolve (reader : Reader) : Except Failure Reader :=
  match reader.pending? with
  | none => .ok reader
  | some (_, none) => .error .missingValue
  | some (setting, some text) => { reader with pending? := none }.give setting text

/-- Reads a name with the value that is attached to it, if any. -/
def readName (reader : Reader) (meaning? : Option Meaning) (attached? : Option String) :
    Except Failure Reader :=
  match meaning?, attached? with
  | none, _ => .error .unknownArgument
  | some (.inquiry _), some _ => .error .unexpectedValue
  | some (.inquiry inquiry), none => do
      let _ ← reader.resolve
      .error (.ofInquiry inquiry)
  | some (.setting setting), some text => do
      let reader ← reader.resolve
      reader.give setting text
  | some (.setting setting), none => do
      let reader ← reader.resolve
      return { reader with pending? := some (setting, none) }

/-- Reads a value that is an argument of its own. -/
def readValue (reader : Reader) (text : String) : Except Failure Reader :=
  match reader.pending? with
  | some (setting, none) => .ok { reader with pending? := some (setting, some text) }
  | _ => .error .unknownArgument

/-- Reads a short name and what is attached to it; an inquiry ends the reading at once. -/
def readShort (reader : Reader) (name : Char) (attached : List Char) : Except Failure Reader :=
  match Meaning.ofShort? name, attached with
  | some (.inquiry inquiry), _ => reader.readName (some (.inquiry inquiry)) none
  | meaning?, [] => reader.readName meaning? none
  | meaning?, '=' :: rest => reader.readName meaning? (some (String.ofList rest))
  | meaning?, rest => reader.readName meaning? (some (String.ofList rest))

/-- Reads a long name and what is attached to it by an equals sign. -/
def readLong (reader : Reader) (chars : List Char) : Except Failure Reader :=
  let name := String.ofList (chars.takeWhile (· ≠ '='))
  let attached? := match chars.dropWhile (· ≠ '=') with
    | [] => none
    | _ :: rest => some (String.ofList rest)
  reader.readName (Meaning.ofLong? name) attached?

def read (reader : Reader) (argument : String) : Except Failure Reader :=
  if reader.ended then .error .unknownArgument
  else
    match argument.toList with
    | ['-', '-'] => .ok { reader with ended := true }
    | '-' :: '-' :: rest => reader.readLong rest
    | '-' :: name :: attached => reader.readShort name attached
    | _ => reader.readValue argument

end Reader

def parse (arguments : List String) : Except Failure Settings := do
  let reader ← arguments.foldlM Reader.read ({} : Reader)
  return (← reader.resolve).settings

end DatagramMux.CommandLine
