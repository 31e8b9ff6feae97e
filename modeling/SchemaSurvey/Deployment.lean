/-
  `Deployment` — the configuration file of a deployment.

  A deployment file is read, written as a whole, or brought up to date with the database that it
  names. Writing and updating return the tree of files as it is afterwards beside the run itself.
-/
import SchemaSurvey.Configuration.Format
import SchemaSurvey.Database.Network
import SchemaSurvey.FileTree.Access

namespace SchemaSurvey.Deployment

open Database (Network Run)

/-- Reads the configuration in a text. -/
def ofText (s : String) : Except Failure Configuration :=
  (Configuration.codec.ofText s).mapError .ofJson

/-- A failure of the system at a path. -/
def systemFailure (code path : String) (e : SystemError) : Failure :=
  ⟨.io, code, s!"{path}: {e.message}"⟩

/-- Reads the file at a path. -/
def read (t : FileTree) (path : String) : Run Failure Configuration := do
  let text ← .of ((t.text path).mapError (systemFailure "read_failed" path))
  let c ← .of (ofText text)
  .report [.configurationRead path]
  return c

/-- Writes a configuration to the file at a path. -/
def write (t : FileTree) (path : String) (c : Configuration) : Run Failure Unit × FileTree :=
  let (result, after) := t.replace path c.fileText.toUTF8
  let run : Run Failure Unit := do
    .of (result.mapError (systemFailure "write_failed" path))
    .report [.configurationWritten path]
  (run, after)

/-- Brings the file at a path up to date with the database that it names. The run comes to the
configuration that is in the file afterwards. -/
def update (network : Network) (t : FileTree) (path : String) :
    Run Failure Configuration × FileTree :=
  let refreshing : Run Failure Configuration := do
    let c ← read t path
    network.configure c
  match refreshing.outcome with
  | .error _ => (refreshing, t)
  | .ok c =>
    let (writing, after) := write t path c
    let run : Run Failure Configuration := do
      let _ ← refreshing
      writing
      .report [.deploymentUpdated path c.metadata.tables.size c.aggregates.size]
      return c
    (run, after)

end SchemaSurvey.Deployment
