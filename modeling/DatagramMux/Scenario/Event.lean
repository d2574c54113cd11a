import DatagramMux.Config

/-!
# What a scenario shows

The collaborators of a scenario note everything that is asked of them, and the steps note what they
find. Each note is one event with a line of text.
-/

namespace DatagramMux.Scenario

/-- A session: a scripted one by its number in order of creation, or an echo session. -/
inductive Party where
  | scripted (number : Nat)
  | echo (number : Nat)
  deriving DecidableEq, Repr

/-- How a session is called. -/
def Party.name : Party → String
  | .scripted number => "s" ++ toString number
  | .echo _ => "echo session"

/-- How a session is called that may be missing. -/
def partyName (party? : Option Party) : String :=
  match party? with
  | some party => party.name
  | none => "none"

inductive Event where
  | note (tag : String)
  | configuration (config : Config)
  | noConnection
  | nothingDeferred
  | acquire (least : Nat) (direct : Bool)
  | release
  | fillClosed (stale : Bool)
  | fillEmpty (stale : Bool)
  | fillError (kind : IoKind) (stale : Bool)
  | fill (length : Nat) (remote : SocketAddress) (stale : Bool)
  | write (number : Nat) (remote : SocketAddress) (inFlight : Nat) (buffers : List Bytes)
  | interest
  | shutdownOutput
  | isOpen
  | endpointClose
  | create (remote : SocketAddress) (datagram : Bytes)
  | creationFailed (error : MuxError)
  | created (party? : Option Party)
  | assigned (number : Nat) (identifier : ConnectionId)
  | process (number : Nat) (remote : SocketAddress) (datagram : Bytes)
  | sessionClose (number : Nat)
  | callback (tag : String) (outcome : Except MuxError Unit)
  | inserted (party : Party) (refusal? : Option MuxError)
  | insertedHeld (refusal? : Option MuxError)
  | lookup (party? : Option Party)
  | removed (party? : Option Party)
  | contains (found : Bool)
  | closedAll (count : Nat)
  | processed (result : Except MuxError Nat)

namespace Event

/-- How a result is shown that may be an error. -/
def outcomeText : Except MuxError Unit → String
  | .ok () => "ok"
  | .error error => "err " ++ error.name ++ ": " ++ error.message

/-- How the result of a registration is shown. -/
def refusalText (refusal? : Option MuxError) : String :=
  match refusal? with
  | none => outcomeText (.ok ())
  | some error => outcomeText (.error error)

def flagText (flag : Bool) : String := if flag then "true" else "false"

/-- The mark of a buffer that was not empty when it was to be filled. -/
def staleText (stale : Bool) : String := if stale then " STALE" else ""

def text : Event → String
  | .note tag => "note " ++ tag
  | .configuration config => config.text
  | .noConnection => "no connection"
  | .nothingDeferred => "nothing deferred"
  | .acquire least direct => "acquire " ++ toString least ++ " " ++ flagText direct
  | .release => "release"
  | .fillClosed stale => "fill closed" ++ staleText stale
  | .fillEmpty stale => "fill empty" ++ staleText stale
  | .fillError kind stale => "fill error " ++ kind.name ++ staleText stale
  | .fill length remote stale =>
      "fill " ++ toString length ++ " from " ++ remote.text ++ staleText stale
  | .write number remote inFlight buffers =>
      "write #" ++ toString number ++ " to " ++ remote.text ++ " inflight " ++ toString inFlight ++
        " [" ++ ",".intercalate (buffers.map Bytes.brief) ++ "]"
  | .interest => "interest"
  | .shutdownOutput => "shutdown_output"
  | .isOpen => "is_open?"
  | .endpointClose => "endpoint_close"
  | .create remote datagram => "create " ++ remote.text ++ " " ++ datagram.brief
  | .creationFailed error => "-> err " ++ error.name
  | .created party? => "-> " ++ partyName party?
  | .assigned number identifier =>
      "set_id s" ++ toString number ++ " " ++ identifier.bytes.brief
  | .process number remote datagram =>
      "process s" ++ toString number ++ " " ++ remote.text ++ " " ++ datagram.brief
  | .sessionClose number => "sclose s" ++ toString number
  | .callback tag outcome => "cb " ++ tag ++ " " ++ outcomeText outcome
  | .inserted party refusal? => "insert " ++ party.name ++ " " ++ refusalText refusal?
  | .insertedHeld refusal? => "insert held " ++ refusalText refusal?
  | .lookup party? => "lookup " ++ partyName party?
  | .removed party? => "remove " ++ partyName party?
  | .contains found => "contains " ++ flagText found
  | .closedAll count => "closed " ++ toString count
  | .processed (.ok consumed) => "processed " ++ toString consumed
  | .processed (.error error) => "processed err " ++ error.name ++ ": " ++ error.message

/-- The number of the session whose closing an event notes. -/
def closedSession? : Event → Option Nat
  | .sessionClose number => some number
  | _ => none

end Event

/--
Puts each run of adjacent closings of sessions into the order of the sessions' numbers, since the
order in which a registry lists its sessions means nothing. The closings that were seen last are
collected until something else follows.
-/
def orderClosings : List Nat → List Event → List Event
  | collected, [] => (collected.mergeSort (· ≤ ·)).map .sessionClose
  | collected, event :: rest =>
      match event.closedSession? with
      | some number => orderClosings (number :: collected) rest
      | none =>
          (collected.mergeSort (· ≤ ·)).map .sessionClose ++ event :: orderClosings [] rest

end DatagramMux.Scenario
