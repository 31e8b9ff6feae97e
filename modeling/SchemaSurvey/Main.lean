/-
  `Main` — the program.

  The outer layer: it takes the command line, the environment and the deployment file from the
  system, hands them to `CommandLine.run`, and carries out what that comes to. Databases are reached
  through the `Network` that is handed in; this program has none, so a well-formed address fails
  like one where nobody listens.
-/
import SchemaSurvey.CommandLine.Program

open SchemaSurvey

/-- The tree of the file at a path, if it can be read. -/
def readFiles (path : String) : IO FileTree := do
  try
    let content ← IO.FS.readBinFile path
    return (∅ : FileTree).install path content
  catch _ => return ∅

/-- Writes the file at a path if it has changed. -/
def writeFiles (path : String) (before after : FileTree) : IO Unit := do
  if let .ok content := after.content path then
    unless (before.content path).toOption.any fun old => old.data == content.data do
      IO.FS.writeBinFile (path ++ ".tmp") content
      IO.FS.rename (path ++ ".tmp") path

/-- Runs the program. -/
def main (args : List String) : IO UInt32 := do
  let uri? ← IO.getEnv "CATALOG_DATABASE_URL"
  let logFilter? ← IO.getEnv "RUST_LOG"
  let path? := CommandLine.Arguments.value? "--config" args
  let files ← path?.elim (pure ∅) readFiles
  let outcome := CommandLine.run Database.Network.none { uri?, logFilter? } files args
  path?.forM fun path => writeFiles path files outcome.files
  IO.print outcome.output
  IO.eprint outcome.errors
  return outcome.exitCode
