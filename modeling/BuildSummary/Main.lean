import BuildSummary.Program

/-!
# Running the program

Reads the arguments and the file that they name, and prints the outcome.
-/

namespace BuildSummary

/-- Looks at what a path leads to. -/
def PathState.look (path : Text) : IO PathState := do
  match ← (IO.FS.realPath (String.ofList path)).toBaseIO with
  | .error _ => return .missing
  | .ok target =>
    if ← target.isDir then return .directory
    match ← (IO.FS.readBinFile target).toBaseIO with
    | .error _ => return .unreadable
    | .ok bytes => return .file bytes.toList

/-- Prints an outcome and gives its exit code. -/
def Outcome.print (outcome : Outcome) : IO UInt32 := do
  IO.print (String.ofList outcome.output)
  IO.eprint (String.ofList outcome.complaint)
  return outcome.exitCode.toUInt32

end BuildSummary

open BuildSummary in
/-- Summarizes the log that the arguments name. -/
def main (arguments : List String) : IO UInt32 := do
  match Options.parse (arguments.map String.toList) with
  | .error interruption => (Outcome.ofInterruption {} interruption).print
  | .ok options => (Outcome.ofOptions options (← PathState.look options.logFile)).print
