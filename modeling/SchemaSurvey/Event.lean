/-
  `Event` — what a run reports while it works.

  Operations return their events beside their results, in the order in which they happen. An event
  carries the facts it reports; its level, its target and its line of text are read off it.
-/
import SchemaSurvey.Catalog.Row
import SchemaSurvey.Catalog.SystemTable

namespace SchemaSurvey

/-- How much an event matters. -/
inductive Level where
  | trace
  | debug
  | info
  | warn
  | error
deriving DecidableEq

namespace Level

/-- The level's rank: the higher, the graver. -/
def rank : Level → Nat
  | trace => 0
  | debug => 1
  | info => 2
  | warn => 3
  | error => 4

/-- The level's name in a log line. -/
def name : Level → String
  | trace => "TRACE"
  | debug => "DEBUG"
  | info => "INFO"
  | warn => "WARN"
  | error => "ERROR"

end Level

/-- Something worth reporting. -/
inductive Event where
  /-- A relation stays hidden because a column has a type that is not usable. -/
  | relationHidden (name : String) (type : Oid)
  | constraintsResolved (unique foreign dropped : Nat)
  | aggregatesResolved (argumentTypes collapsed : Nat)
  | schemaResolved (schemas relations tables argumentTypes : Nat)
  | tableRead (table : Catalog.SystemTable) (rows : Nat)
  | snapshotLoaded (namespaces classes types attributes constraints aggregates : Nat)
  | connectionLost (reason : String)
  | configurationRefreshed (tables nativeQueries : Nat)
  | configurationRead (path : String)
  | configurationWritten (path : String)
  | deploymentUpdated (path : String) (tables argumentTypes : Nat)
  /-- The command line's own report of a finished update. -/
  | updateFinished (path : String) (tables argumentTypes : Nat)
deriving DecidableEq

namespace Event

/-- How much the event matters. -/
def level : Event → Level
  | relationHidden .. | constraintsResolved .. | aggregatesResolved .. | tableRead ..
  | configurationRead .. | configurationWritten .. => .debug
  | schemaResolved .. | snapshotLoaded .. | configurationRefreshed .. | deploymentUpdated ..
  | updateFinished .. => .info
  | connectionLost .. => .warn

/-- The part of the program that reports. -/
def target : Event → String
  | relationHidden .. | constraintsResolved .. | aggregatesResolved .. | schemaResolved .. =>
    "catalog::introspect"
  | tableRead .. | snapshotLoaded .. | connectionLost .. => "catalog::reader"
  | configurationRefreshed .. => "catalog::config"
  | configurationRead .. | configurationWritten .. | deploymentUpdated .. => "catalog::deployment"
  | updateFinished .. => "catalog_introspect"

/-- The line of text. -/
def message : Event → String
  | relationHidden name type =>
    s!"relation '{name}' hidden: column type oid {type} is not supported"
  | constraintsResolved unique foreign dropped =>
    s!"constraints resolved: unique={unique} foreign={foreign} dropped={dropped}"
  | aggregatesResolved argumentTypes collapsed =>
    s!"aggregates resolved: argument_types={argumentTypes} collapsed_overloads={collapsed}"
  | schemaResolved schemas relations tables argumentTypes =>
    s!"resolved schema: schemas={schemas} candidate_relations={relations} tables={tables} "
      ++ s!"aggregate_argument_types={argumentTypes}"
  | tableRead table rows => s!"{table.name}: {rows} rows"
  | snapshotLoaded namespaces classes types attributes constraints aggregates =>
    s!"catalog snapshot loaded: namespaces={namespaces} classes={classes} types={types} "
      ++ s!"attributes={attributes} constraints={constraints} aggregates={aggregates}"
  | connectionLost reason => s!"connection closed with error: {reason}"
  | configurationRefreshed tables nativeQueries =>
    s!"configuration refreshed: tables={tables} native_queries={nativeQueries}"
  | configurationRead path => s!"read configuration from {path}"
  | configurationWritten path => s!"wrote configuration to {path}"
  | deploymentUpdated path tables argumentTypes =>
    s!"deployment updated: file={path} tables={tables} aggregate_argument_types={argumentTypes}"
  | updateFinished path tables argumentTypes =>
    s!"{path} refreshed: {tables} tables, {argumentTypes} aggregate argument types"

end Event

end SchemaSurvey
