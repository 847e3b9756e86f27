import DevfilePush.Cli.Run
import DevfilePush.Text.Utf8

/-!
The program `devpush`.
-/

namespace DevfilePush.Cli

/-- What is found at a path on disk. -/
def findOnDisk (path : String) : IO FileContent := do
  try
    let bytes ← IO.FS.readBinFile path
    match Text.Utf8.decode? bytes.toList with
    | some text => return .text text
    | none => return .unreadable
  catch
    | .noFileOrDirectory .. => return .missing
    | _ => return .unreadable

/-- The variables that the program looks at. -/
def readEnvironment : IO Environment := do
  (settingsVar :: PushSettings.variableNames).filterMapM fun name => do
    return (← IO.getEnv name).map fun value => (name, value)

/-- The files that a call may read. -/
def pathsOf : Request → List String
  | .run invocation => invocation.devfile :: invocation.settings.toList
  | _ => []

/-- Tells the user what is wrong. -/
def complain : Complaint → IO Unit
  | .usage => IO.eprint ("error: the arguments cannot be used\n\n" ++ usageText)
  | .nothingToDo => IO.eprint usageText
  | .failed failure => IO.eprintln ("Error: " ++ failure.message)

end DevfilePush.Cli

open DevfilePush.Cli in
/-- Runs the program. -/
def main (args : List String) : IO UInt32 := do
  let environment ← readEnvironment
  let paths := pathsOf (Request.ofArguments environment args)
  let files ← paths.mapM fun path => return (path, ← findOnDisk path)
  let outcome := run (fun path => (files.lookup path).getD .missing) environment args
  IO.print outcome.stdout
  outcome.complaint.forM complain
  return outcome.exitCode.toUInt32
