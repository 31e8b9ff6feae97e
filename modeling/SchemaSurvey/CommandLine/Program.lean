/-
  `Program` — a run of the program from its command line to its output.

  The result of a command goes to the standard output. Events, as far as the log filter shows them,
  and then what went wrong go to the standard error. A run that fails ends with exit code 1.
-/
import SchemaSurvey.CommandLine.Arguments
import SchemaSurvey.Deployment
import SchemaSurvey.Document.Format
import SchemaSurvey.LogFilter

namespace SchemaSurvey.CommandLine

open Database (Network Run)

/-- How to call the program. -/
def usage : String :=
  String.join <| List.map (· ++ "\n") [
    "catalog_introspect",
    "",
    "USAGE:",
    "  catalog_introspect update --config FILE",
    "  catalog_introspect print --uri URI [--exclude SCHEMA]...",
    "",
    "COMMANDS:",
    "  update    Introspect the database named in FILE and rewrite FILE in place",
    "  print     Print \x7bTables, AggregateFunctions\x7d for URI to stdout",
    "",
    "OPTIONS:",
    "  --config FILE       Deployment configuration file",
    "  --uri URI           Postgres connection URI (env: CATALOG_DATABASE_URL)",
    "  --exclude SCHEMA    Schema to skip; repeatable. Defaults to the system schemas",
    "",
    "RUST_LOG controls log verbosity (default info)."]

/-- The message of a command line that cannot be followed. -/
def UsageError.message : UsageError → String
  | noPath => "update requires --config FILE"
  | noUri => "print requires --uri URI or CATALOG_DATABASE_URL"
  | unknownCommand name => s!"unknown command '{name}'\n\n{usage}"

/-- Why the program fails. -/
inductive Complaint where
  | usage (e : UsageError)
  | failure (f : Failure)
  /-- A failure of an update, told with the path of the file. -/
  | update (path : String) (f : Failure)
deriving DecidableEq

/-- The cause under a message: indented, every line of it. -/
def causedBy (cause : String) : String :=
  "\n\nCaused by:\n    " ++ "\n    ".intercalate (cause.splitOn "\n")

/-- What is told about a failure. -/
def Complaint.text : Complaint → String
  | usage e => e.message
  | failure f => f.text
  | update path f => s!"updating {path}" ++ causedBy f.text

/-- What the program finds around it. -/
structure Environment where
  /-- The database to print if none is named. -/
  uri? : Option String := none
  /-- The log filter, in writing. -/
  logFilter? : Option String := none

/-- What a run leaves behind. -/
structure Outcome where
  exitCode : UInt32
  output : String
  errors : String
  files : FileTree

/-- Does what is asked. The run comes to the text for the standard output. -/
def Command.perform (network : Network) (files : FileTree) :
    Command → Run Complaint String × FileTree
  | help => (.of (.ok (usage ++ "\n")), files)
  | update path =>
    let (updating, after) := Deployment.update network files path
    let run : Run Complaint String := do
      let c ← updating.mapError (.update path)
      .report [.updateFinished path c.metadata.tables.size c.aggregates.size]
      return ""
    (run, after)
  | print uri excluded =>
    let run : Run Complaint String := do
      let d ← (network.introspect uri excluded).mapError .failure
      return Document.codec.pretty d ++ "\n"
    (run, files)

/-- Runs the program. -/
def run (network : Network) (env : Environment) (files : FileTree) (args : List String) : Outcome :=
  let (run, after) := match Command.ofArguments env.uri? args with
    | .ok command => command.perform network files
    | .error e => (.of (.error (.usage e)), files)
  let log := (LogFilter.ofSetting env.logFilter?).lines run.events
  match run.outcome with
  | .ok output => { exitCode := 0, output, errors := log, files := after }
  | .error complaint =>
    { exitCode := 1, output := "", errors := log ++ s!"Error: {complaint.text}\n", files := after }

end SchemaSurvey.CommandLine
