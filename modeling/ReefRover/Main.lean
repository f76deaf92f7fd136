import ReefRover.Headless

/-!
This module contains the command line. It runs the program in the file that is named, or the
patrol, prints the report to the standard output and the log to the standard error, and ends with
the exit code of the run.
-/

namespace ReefRover

def readProgram (name : String) : IO (Except ReadError String) := do
  try
    match String.fromUTF8? (← IO.FS.readBinFile name) with
    | some text => return .ok text
    | none => return .error .notText
  catch
    | .noFileOrDirectory .. => return .error .notFound
    | .permissionDenied .. => return .error .denied
    | e => return .error (.other (toString e))

def sessionSeed : IO UInt64 := do
  let bytes ← IO.getRandomBytes 8
  return bytes.toList.foldl (fun seed byte => 256 * seed + byte.toUInt64) 0

/--
Runs the program in the file that is the first argument. The environment may hold `OCEAN_BOT_SEED`,
the seed of the run, and `OCEAN_BOT_LOG`, the setting of the log.
-/
def runCommand (args : List String) : IO UInt32 := do
  let source ←
    match args with
    | [] => pure ProgramSource.patrol
    | name :: _ => ProgramSource.file name <$> readProgram name
  let run := Headless.run (← IO.getEnv "OCEAN_BOT_SEED") (← sessionSeed) source
  IO.eprint (run.shownLog (← IO.getEnv "OCEAN_BOT_LOG"))
  if let some report := run.output then
    IO.println report
  return run.exitCode.toUInt32

end ReefRover

def main (args : List String) : IO UInt32 :=
  ReefRover.runCommand args
