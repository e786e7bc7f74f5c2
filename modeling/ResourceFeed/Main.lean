import ResourceFeed.Client.RecordingText
import ResourceFeed.CommandLine.Run

/-! # The program

    Runs the command of a command line.  The responses of the server are read
    as a recording from the standard input.
-/

open ResourceFeed ResourceFeed.CommandLine

/-- Prints a transcript; the exit code tells whether the command failed. -/
def printTranscript (transcript : Transcript) : IO UInt32 := do
  transcript.lines.forM fun line => IO.println line
  match transcript.failure with
  | some failure =>
    IO.eprintln failure.message
    return 1
  | none => return 0

/-- Runs a command with recorded responses. -/
def runRecorded (invocation : Invocation) (recording : Recording) : IO UInt32 := do
  let file ← invocation.options.config.mapM fun name => IO.FS.readFile name
  let (transcript, _) := invocation.run file recording recording.patience
  printTranscript transcript

/-- Runs the command of a command line. -/
def main (arguments : List String) : IO UInt32 := do
  match Invocation.ofArguments arguments with
  | .error fault =>
    IO.eprintln fault.name
    return 2
  | .ok invocation =>
    match Recording.ofText? (← (← IO.getStdin).readToEnd) with
    | some recording => runRecorded invocation recording
    | none =>
      IO.eprintln "the standard input is no recording"
      return 2
