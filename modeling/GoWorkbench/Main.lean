/-
  The command line.

  The arguments say what to do; a line on standard input describes what there is, as
  `CommandLine.Surroundings` reads it.  What the program writes goes to standard output, its
  errors and reports go to standard error, and its status is that of the process.
-/
import GoWorkbench.CommandLine.Surroundings

open GoWorkbench CommandLine

/-- Does what the arguments ask for. -/
def main (arguments : List String) : IO UInt32 := do
  match Surroundings.read (← (← IO.getStdin).getLine) with
  | none =>
    IO.eprintln "error: standard input does not describe any surroundings"
    return 2
  | some surroundings =>
    let (ended, reports) := surroundings.run arguments
    IO.eprint reports
    IO.print ended.output
    IO.eprint ended.errors
    match ended.status with
    | .ok status => return UInt32.ofNat status
    | .error failure =>
      IO.eprintln ("error: " ++ failure.message.getD "broken off")
      return 1
