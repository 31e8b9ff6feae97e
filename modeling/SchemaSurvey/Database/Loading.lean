/-
  `Loading` — fetching a snapshot of the catalog from a server.

  A load is one read-only transaction: start, the eight queries in order, rollback. The rows of a
  table are read as soon as they have arrived, before the next table is asked for. The first thing
  that goes wrong ends the load; there is no partial snapshot. The transaction is rolled back in any
  case, except that nothing more can be sent once the server has closed the connection.
-/
import SchemaSurvey.Database.Run
import SchemaSurvey.Survey.Basic

namespace SchemaSurvey.Database

/-- Why a load ends. -/
inductive LoadError where
  | refused (refusal : Refusal)
  | undecodable (error : CellError)
deriving DecidableEq

namespace LoadError

/-- The failure to report. -/
def toFailure : LoadError → Failure
  | refused r => r.toFailure
  | undecodable e => e.toFailure

/-- Whether the connection is gone. -/
def isHangUp : LoadError → Bool
  | refused .hangUp => true
  | _ => false

end LoadError

namespace Server

/-- Sends a statement and takes the answer. -/
def send {α : Type} (statement : Statement) (reply : Reply α) : Run LoadError α where
  outcome := reply.mapError .refused
  statements := [statement]

/-- Fetches a table and reads its rows. -/
def read {α : Type} (server : Server) (table : Catalog.SystemTable)
    (ofRow : Row → Except CellError α) : Run LoadError (List α) := do
  let rows ← send (.select table) (server.select table)
  let items ← .of ((rows.mapM ofRow).mapError .undecodable)
  .report [.tableRead table items.length]
  return items

/-- Starts the transaction and reads the eight tables. -/
def readTables (server : Server) : Run LoadError Catalog.Snapshot := do
  send .start server.start
  let namespaces ← server.read .namespaces Row.toNamespace
  let classes ← server.read .classes Row.toClass
  let types ← server.read .types Row.toType
  let attributes ← server.read .attributes Row.toAttribute
  let descriptions ← server.read .descriptions Row.toDescription
  let constraints ← server.read .constraints Row.toConstraint
  let procedures ← server.read .procedures Row.toProcedure
  let aggregates ← server.read .aggregates Row.toAggregate
  return { namespaces, classes, types, attributes, descriptions, constraints, procedures,
           aggregates }

/-- The event of a finished load. -/
def loaded (s : Catalog.Snapshot) : Event :=
  .snapshotLoaded s.namespaces.length s.classes.length s.types.length s.attributes.length
    s.constraints.length s.aggregates.length

/-- Loads a snapshot over an open connection. -/
def load (server : Server) : Run LoadError Catalog.Snapshot :=
  let reading := server.readTables
  match reading.outcome with
  | .ok _ => do
    let snapshot ← reading
    send .rollback server.rollback
    .report [loaded snapshot]
    return snapshot
  | .error e =>
    if e.isHangUp then reading
    else { reading with statements := reading.statements ++ [.rollback] }

/-- Reports at the end that the connection was lost, if it was. -/
def reportLoss {α : Type} (r : Run LoadError α) : Run LoadError α :=
  match r.outcome with
  | .error (.refused .hangUp) =>
    { r with events := r.events ++ [.connectionLost Refusal.hangUp.toFailure.message] }
  | _ => r

/-- Opens a connection. -/
def connect (server : Server) : Run LoadError Unit := .of (server.greeting.mapError .refused)

/-- Loads a snapshot over a new connection. -/
def visit (server : Server) : Run LoadError Catalog.Snapshot := do
  server.connect
  reportLoss server.load

end Server

/-- Surveys a loaded snapshot. -/
def exposed {ε : Type} (excluded : List String) (s : Catalog.Snapshot) : Run ε Document where
  outcome := .ok (survey s excluded).document
  events := (survey s excluded).events

/-- Loads a snapshot over an open connection and surveys it. -/
def Server.introspect (server : Server) (excluded : List String) : Run LoadError Document :=
  server.load >>= exposed excluded

end SchemaSurvey.Database
