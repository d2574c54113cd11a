import DatagramMux.CommandLine.Parse
import DatagramMux.Scenario.Service

/-!
# A dialogue with the echo server

An echo server whose network is a list of lines. Each line that it hears is a datagram that arrives,
and each line that it says is a datagram that it sends: an address, a blank, and the bytes as
hexadecimal text.
-/

namespace DatagramMux.Scenario

/-- An echo server, with how much of what it sent was said already. -/
structure Dialogue where
  service : Service
  said : Nat := 0

namespace Dialogue

def line (address : SocketAddress) (datagram : Bytes) : String :=
  address.text ++ " " ++ Bytes.toHex datagram

def ofLine? (line : String) : Option (SocketAddress × Bytes) := do
  let chars := line.toList
  let address ← SocketAddress.ofText? (String.ofList (chars.takeWhile (· ≠ ' ')))
  let datagram ← Bytes.ofHexDigits? ((chars.dropWhile (· ≠ ' ')).drop 1)
  return (address, datagram)

/-- More moves than one datagram leads to while a number of sessions is known. -/
def bound (dialogue : Dialogue) : Nat :=
  Service.bound (dialogue.service.server.1.connection.registry.size + 1)

/-- Lets the server go on until it waits, and collects the lines that it says. -/
def goOn (dialogue : Dialogue) : Dialogue × List String :=
  let service := dialogue.service.settleDown dialogue.bound
  let sent := service.socket.sent
  (⟨service, sent.length⟩,
    (sent.drop dialogue.said).map fun (address, datagram) => line address datagram)

/-- A server that was told its settings and waits for datagrams. -/
def start (settings : CommandLine.Settings) : Except MuxError Dialogue := do
  let server ← Server.bind {} settings.toConfig false true
  let service := (Service.new server settings.maxSessions 0).enter .run
  return (goOn { service := service }).1

/-- The server hears a line and answers it; what is not the line of a datagram is passed over. -/
def hear (dialogue : Dialogue) (line : String) : Dialogue × List String :=
  match ofLine? line with
  | none => (dialogue, [])
  | some (address, datagram) =>
      let service := dialogue.service
      goOn { dialogue with service := service.setSocket (service.socket.arrive address datagram) }

/-- The server is told to end, and says how it ended. -/
def finish (dialogue : Dialogue) : Except MuxError Unit :=
  let ended := (goOn { dialogue with service := dialogue.service.setShutdown true }).1
  match ended.service.server.1.returned? with
  | some (.loop result) => result
  | _ => .ok ()

end Dialogue

end DatagramMux.Scenario
