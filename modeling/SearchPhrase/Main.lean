import SearchPhrase.CommandLine.Command

/-!
# The program

The command line, which turns search phrases into structured filters.  This module only
reads and prints; what is printed is decided elsewhere.
-/

namespace SearchPhrase
namespace CommandLine

/-- The content of a file, or of the standard input, if it can be read. -/
def readInput (file : Option String) : IO (Option String) := do
  try
    match file with
    | some path => some <$> IO.FS.readFile path
    | none =>
        let input ← IO.getStdin
        some <$> input.readToEnd
  catch _ => pure none

/-- Print an outcome and give back its exit code. -/
def finish (outcome : Outcome) : IO UInt32 := do
  let output ← IO.getStdout
  output.putStr outcome.output
  output.flush
  pure (UInt32.ofNat outcome.exit)

/-- Run the command that the arguments ask for. -/
def run (arguments : List String) : IO UInt32 := do
  let input ← match command arguments with
    | .ok (.batch file) => readInput file
    | _ => pure none
  finish (outcome arguments input)

end CommandLine
end SearchPhrase

/-- The entry point of the program. -/
def main (arguments : List String) : IO UInt32 :=
  SearchPhrase.CommandLine.run arguments
