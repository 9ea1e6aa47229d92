import Seek.Command

/-!
The executable: reads the environment, runs the command line, and writes what came of it.
-/

open Seek.Command

/-- What the run can see beside its command line. -/
def readEnvironment : IO Environment := do
  let filter ← IO.getEnv "RUST_LOG"
  let plain ← IO.getEnv "NO_COLOR"
  let isTerminal ← (← IO.getStderr).isTty
  return ⟨filter, plain.isSome, isTerminal⟩

/-- Runs the command line. -/
def main (arguments : List String) : IO UInt32 := do
  let result := run (← readEnvironment) arguments
  IO.print result.output
  IO.eprint result.diagnostics
  if result.exit = 2 then IO.eprintln ""
  return .ofNat result.exit
