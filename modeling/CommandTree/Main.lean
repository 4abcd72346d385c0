import CommandTree.Shell

/-!
# The command line

The first argument names a configuration file; without one the environment may do so.
Lines are read from the standard input.
-/

open CommandTree

/-- Fetch a file. -/
def fetchFile (path : String) : IO File := do
  let name := (path.splitOn "/").getLastD path
  try
    return { name, content := some (← IO.FS.readBinFile path) }
  catch _ =>
    return { name, content := none }

/-- Run the shell on the standard input. -/
def main (arguments : List String) : IO UInt32 := do
  let argument ← arguments.head?.mapM fetchFile
  let environment ← (← IO.getEnv "CMDGRAM_CONFIG").mapM fetchFile
  let input ← (← IO.getStdin).readBinToEnd
  let transcript := Shell.start argument environment input.toList
  let output ← IO.getStdout
  output.putStr transcript.output
  output.flush
  return transcript.exitCode
