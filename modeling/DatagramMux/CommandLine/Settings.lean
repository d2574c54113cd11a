import DatagramMux.Config

/-!
# Settings of the echo server

What can be set on the command line of the echo server, by which names, and what the texts given for
it mean.
-/

namespace DatagramMux.CommandLine

/-- What the echo server is told on the command line. -/
structure Settings where
  bind : SocketAddress := .unspecified
  readBuffer : UInt64 := 1500
  idLength : UInt64 := 16
  maxSessions : UInt64 := 1024
  /-- After how many seconds to stop; zero means never. -/
  duration : UInt64 := 0
  /-- The seconds between two reports of the counters. -/
  statsInterval : UInt64 := 5
  deriving DecidableEq

inductive Setting where
  | bind
  | readBuffer
  | idLength
  | maxSessions
  | duration
  | statsInterval
  deriving DecidableEq, Repr

def Setting.all : List Setting :=
  [.bind, .readBuffer, .idLength, .maxSessions, .duration, .statsInterval]

def Setting.longName : Setting → String
  | .bind => "bind"
  | .readBuffer => "read-buffer"
  | .idLength => "cid-len"
  | .maxSessions => "max-sessions"
  | .duration => "duration"
  | .statsInterval => "stats-interval"

inductive Inquiry where
  | help
  | version
  deriving DecidableEq, Repr

/-- What a name on the command line stands for. -/
inductive Meaning where
  | setting (setting : Setting)
  | inquiry (inquiry : Inquiry)
  deriving DecidableEq, Repr

def Meaning.ofLong? (name : String) : Option Meaning :=
  if name == "help" then some (.inquiry .help)
  else if name == "version" then some (.inquiry .version)
  else (Setting.all.find? fun setting => setting.longName == name).map .setting

def Meaning.ofShort? : Char → Option Meaning
  | 'b' => some (.setting .bind)
  | 'h' => some (.inquiry .help)
  | 'V' => some (.inquiry .version)
  | _ => none

/--
The number that a text denotes: decimal digits after an optional plus sign, below 2 to the 64.
-/
def numberOfText? (text : String) : Option UInt64 :=
  let digits := match text.toList with
    | '+' :: rest => rest
    | chars => chars
  if digits.isEmpty ∨ digits.any (fun char => char < '0' ∨ '9' < char) then none
  else
    let value := SocketAddress.digitsValue 10 digits
    if value < UInt64.size then some value.toUInt64 else none

/--
Settings after the text given for one of them has been read; there is no result for a wrong text.
-/
def Settings.set? (settings : Settings) (setting : Setting) (text : String) : Option Settings :=
  match setting with
  | .bind => (SocketAddress.ofText? text).map fun value => { settings with bind := value }
  | .readBuffer => (numberOfText? text).map fun value => { settings with readBuffer := value }
  | .idLength => (numberOfText? text).map fun value => { settings with idLength := value }
  | .maxSessions => (numberOfText? text).map fun value => { settings with maxSessions := value }
  | .duration => (numberOfText? text).map fun value => { settings with duration := value }
  | .statsInterval => (numberOfText? text).map fun value => { settings with statsInterval := value }

/-- The configuration that settings ask for; there is at least one second between two reports. -/
def Settings.toConfig (settings : Settings) : Config where
  bindAddress := settings.bind
  readBufferSize := settings.readBuffer
  localIdLength := settings.idLength
  statsInterval := 1000 * max settings.statsInterval.toNat 1

end DatagramMux.CommandLine
