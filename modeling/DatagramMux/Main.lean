import DatagramMux.Scenario.Dialogue

/-!
# The echo server as a program

Reads the settings from the command line and then datagrams from standard input, one a line, and
writes the datagrams that the server sends to standard output. The server ends with its input.
-/

namespace DatagramMux.Program

def report (event message : String) : IO Unit := do
  (← IO.getStderr).putStrLn (event ++ ": " ++ message)

/-- Hears the lines of the input one by one. -/
partial def converse (input output : IO.FS.Stream) (dialogue : Scenario.Dialogue) :
    IO Scenario.Dialogue := do
  let line ← input.getLine
  if line.isEmpty then return dialogue
  let (dialogue, lines) := dialogue.hear line.trimAscii.toString
  for line in lines do
    output.putStrLn line
  output.flush
  converse input output dialogue

/-- Runs the echo server with the given arguments, and tells its exit code. -/
def run (arguments : List String) : IO UInt32 := do
  match CommandLine.parse arguments with
  | .error failure =>
      report "arguments" failure.name
      return failure.exitCode.toUInt32
  | .ok settings =>
      match Scenario.Dialogue.start settings with
      | .error error =>
          report "failed to start" error.message
          return 1
      | .ok dialogue =>
          let dialogue ← converse (← IO.getStdin) (← IO.getStdout) dialogue
          match dialogue.finish with
          | .ok () => return 0
          | .error error =>
              report "server error" error.message
              return 1

end DatagramMux.Program

/-- Runs the echo server with the given arguments. -/
def main (arguments : List String) : IO UInt32 := DatagramMux.Program.run arguments
