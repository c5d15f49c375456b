import Purification.CommandLine.Options
import Purification.CommandLine.Program

/-! # The command line

Reads the command line, the environment and the input, and writes what the program answers.
-/

namespace Purification.Main

/-- More passes than any run can make in a lifetime. -/
def fuel : Nat := wordBound

/-- The variables that are set. -/
def environment : IO Environment := do
  let values ← Program.variableNames.mapM fun name => return (name, ← IO.getEnv name)
  return fun name => (values.lookup name).join

/-- The bytes of a source, if it can be read. -/
def bytes (source : Source) : IO (Option ByteArray) := do
  try
    match source with
    | .standardInput => return some (← (← IO.getStdin).readBinToEnd)
    | .file path => return some (← IO.FS.readBinFile path)
  catch _ => return none

/-- Writes what a run has to say, the log first. -/
def write (run : Run) : IO UInt32 := do
  for record in run.log do
    IO.eprintln (record.line run.form)
  match run.ending with
  | .document text figures =>
      IO.println text
      IO.eprint (figures.getD "")
  | .failed failure =>
      for line in failure.lines do
        IO.eprintln line
  return .ofNat run.ending.exitCode

def answer (words : List String) : IO UInt32 := do
  match Options.read? words with
  | none =>
      IO.eprintln Usage.refusal
      return .ofNat Usage.exitCode
  | some .help =>
      IO.print Usage.help
      return 0
  | some (.run options) =>
      let input ← bytes (.ofOption options.input)
      match Program.run fuel options (← environment) input with
      | some run => write run
      | none =>
          IO.eprintln "Error: the sweep did not stop"
          return 1

end Purification.Main

def main (words : List String) : IO UInt32 := Purification.Main.answer words
