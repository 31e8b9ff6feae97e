/-
  `Configuration` — what a deployment file says.

  A configuration names the databases to connect to and holds what is served: the tables and
  aggregate functions found in the database, and the native queries, pool settings and excluded
  schemas that belong to the user.
-/
import SchemaSurvey.Document.Basic

namespace SchemaSurvey

namespace Configuration

/-- Where to connect: the common case of one address is written without a list. -/
inductive Connections where
  | one (uri : String)
  | many (uris : List String)
deriving DecidableEq

namespace Connections

/-- All addresses, in order. -/
def toList : Connections → List String
  | one uri => [uri]
  | many uris => uris

/-- Whether there is no address. -/
def isEmpty (c : Connections) : Bool := c.toList.isEmpty

/-- The first address, if there is one. -/
def first? (c : Connections) : Option String := c.toList.head?

end Connections

/-- The connection pool of the serving agent. Times are in seconds. -/
structure Pool where
  maxConnections : UInt32 := 50
  /-- How long to wait for a connection. -/
  timeout : UInt64 := 30
  /-- After how long an idle connection is released, if ever. -/
  idleTimeout : Option UInt64 := some 180
  /-- How long a connection lives at most, if there is a limit. -/
  lifetime : Option UInt64 := some 600
deriving DecidableEq

/-- A query written by the user and served like a table. -/
structure NativeQuery where
  sql : String
  columns : SortedMap String Document.Column
  arguments : SortedMap String Document.Column := ∅
deriving DecidableEq

/-- What is served as tables. -/
structure Metadata where
  tables : Document.Tables := ∅
  nativeQueries : SortedMap String NativeQuery := ∅
deriving DecidableEq

/-- The schemas left out unless the user says otherwise: the internal schemas of Postgres, PostGIS,
CockroachDB and Citus. -/
def defaultExcluded : List String :=
  ["information_schema", "pg_catalog", "tiger", "crdb_internal", "columnar", "columnar_internal"]

/-- The version of the format. -/
def currentVersion : UInt32 := 1

end Configuration

open SchemaSurvey.Configuration in
/-- The content of a deployment file. -/
structure Configuration where
  version : UInt32
  connections : Connections
  pool : Pool := {}
  metadata : Metadata := {}
  aggregates : Document.Aggregates := ∅
  excluded : List String := defaultExcluded
deriving DecidableEq

/-- A configuration of the current version that names no database. -/
def Configuration.empty : Configuration :=
  { version := currentVersion, connections := .many [] }

end SchemaSurvey
