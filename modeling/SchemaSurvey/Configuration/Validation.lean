/-
  `Validation` — whether a configuration can be used.

  The version must be the current one and there must be something to connect to. All violations are
  reported together, in that order.
-/
import SchemaSurvey.Configuration.Basic
import SchemaSurvey.Failure

namespace SchemaSurvey.Configuration

/-- Something that makes a configuration unusable. -/
inductive Violation where
  | version (found : UInt32)
  | noConnection
deriving DecidableEq

namespace Violation

/-- The member of the configuration that is at fault. -/
def path : Violation → List String
  | version _ => ["version"]
  | noConnection => ["connection_uris"]

/-- What is wrong with it. -/
def message : Violation → String
  | version found => s!"invalid configuration version, expected {currentVersion}, got {found}"
  | noConnection => "At least one database url must be specified"

/-- The line shown to people. -/
def text (v : Violation) : String := ".".intercalate v.path ++ ": " ++ v.message

/-- The JSON form of a violation. -/
def toJson (v : Violation) : Json :=
  .object [("path", .array (v.path.map .string)), ("message", .string v.message)]

/-- The line shown for several violations. -/
def textOfAll (vs : List Violation) : String :=
  "invalid configuration: " ++ "; ".intercalate (vs.map text)

/-- Violations as a failure. -/
def toFailure (vs : List Violation) : Failure :=
  ⟨.config, "invalid_configuration", textOfAll vs⟩

end Violation

/-- What makes a configuration unusable. -/
def violations (c : Configuration) : List Violation :=
  (if c.version = currentVersion then [] else [.version c.version])
    ++ if c.connections.isEmpty then [.noConnection] else []

/-- Refuses a configuration that cannot be used. -/
def validate (c : Configuration) : Except Failure Unit :=
  match c.violations with
  | [] => .ok ()
  | vs => .error (Violation.toFailure vs)

/-- The address to connect to. The others are for the serving agent. -/
def Connections.select (c : Connections) : Except Failure String :=
  match c.first? with
  | some uri => .ok uri
  | none => .error ⟨.config, "no_connection_uri", Violation.noConnection.message⟩

end SchemaSurvey.Configuration
