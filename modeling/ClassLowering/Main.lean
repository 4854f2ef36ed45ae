import ClassLowering.CommandLine

/-!
# The program

The program reads the variables for colors, runs the command line and writes
what it leaves behind.
-/

/-- Run the program. -/
def main (args : List String) : IO UInt32 := do
  let output ← IO.getStdout
  let colors : ClassLowering.ColorSettings := {
    forced := ← IO.getEnv "CLICOLOR_FORCE"
    suppressed := ← IO.getEnv "NO_COLOR"
    preferred := ← IO.getEnv "CLICOLOR"
    isTerminal := ← output.isTty }
  let result := ClassLowering.CommandLine.run colors args
  output.putStr result.standardOutput
  (← IO.getStderr).putStr result.standardError
  return result.exitCode.toUInt32
