/-
  `Format` — the JSON form of a configuration.

  Only the version and the connections are required. Pool settings are written when they differ from
  the default; everything else is always written.
-/
import SchemaSurvey.Configuration.Basic
import SchemaSurvey.Document.Format

namespace SchemaSurvey.Configuration

open Json

/-- The strings of a list of trees, if they are strings. -/
def Connections.strings? : List Tree → Option (List String)
  | [] => some []
  | .scalar (.string s) :: ts => do
    let text ← s.kept.toOption
    (strings? ts).map (text :: ·)
  | _ => none

/-- The connections that a sound tree describes, if it is a string or an array of strings. -/
def Connections.ofTree? : Tree → Option Connections
  | .scalar (.string s) => s.kept.toOption.map .one
  | .array items _ => (strings? items).map .many
  | _ => none

/-- Connections: a string or an array of strings. The value is checked as a whole before it is
looked at, so a fault anywhere in it comes first. -/
def Connections.codec : Codec Connections where
  write
    | .one uri => .string uri
    | .many uris => .array (uris.map .string)
  read depth t := do
    t.check depth
    match Connections.ofTree? t with
    | some c => .ok c
    | none => .error (.noAlternative "SingleOrList")

/-- 32-bit numbers. -/
def word32 : Codec UInt32 := (Codec.unsigned 32).map UInt32.toFin UInt32.ofFin

/-- 64-bit numbers. -/
def word64 : Codec UInt64 := (Codec.unsigned 64).map UInt64.toFin UInt64.ofFin

/-- Pool settings; what is left out has its default. -/
def Pool.codec : Codec Pool :=
  .record "PoolSettings"
    (.cons (.defaulted "max_connections" word32 50) <|
      .cons (.defaulted "pool_timeout" word64 30) <|
      .cons (.defaulted "idle_timeout" word64.optional (some 180)) <|
      .cons (.defaulted "connection_lifetime" word64.optional (some 600)) .nil)
    (fun p => (p.maxConnections, p.timeout, p.idleTimeout, p.lifetime, ()))
    fun (maxConnections, timeout, idleTimeout, lifetime, _) =>
      { maxConnections, timeout, idleTimeout, lifetime }

/-- A native query. -/
def NativeQuery.codec : Codec NativeQuery :=
  .record "NativeQueryInfo"
    (.cons (.required "sql" .string) <|
      .cons (.required "columns" (.sortedMap Document.Column.codec)) <|
      .cons (.defaulted "arguments" (.sortedMap Document.Column.codec) ∅) .nil)
    (fun q => (q.sql, q.columns, q.arguments, ()))
    fun (sql, columns, arguments, _) => { sql, columns, arguments }

/-- Native queries by name. -/
def nativeQueriesCodec : Codec (SortedMap String NativeQuery) := .sortedMap NativeQuery.codec

/-- What is served as tables. -/
def Metadata.codec : Codec Metadata :=
  .record "Metadata"
    (.cons (.defaulted "tables" Document.tablesCodec ∅) <|
      .cons (.defaulted "nativeQueries" nativeQueriesCodec ∅) .nil)
    (fun m => (m.tables, m.nativeQueries, ()))
    fun (tables, nativeQueries, _) => { tables, nativeQueries }

/-- The pool settings, left out when they are the default. -/
def poolField : RecordField Pool where
  name := "pool_settings"
  codec := Pool.codec
  absent? := some {}
  isOmitted p := p == {}

/-- The JSON form of a configuration. -/
def codec : Codec Configuration :=
  .record "RawConfiguration"
    (.cons (.required "version" word32) <|
      .cons (.required "connection_uris" Connections.codec) <|
      .cons poolField <|
      .cons (.defaulted "metadata" Metadata.codec {}) <|
      .cons (.defaulted "aggregate_functions" Document.aggregatesCodec ∅) <|
      .cons (.defaulted "excluded_schemas" (.list .string) defaultExcluded) .nil)
    (fun c => (c.version, c.connections, c.pool, c.metadata, c.aggregates, c.excluded, ()))
    fun (version, connections, pool, metadata, aggregates, excluded, _) =>
      { version, connections, pool, metadata, aggregates, excluded }

/-- The text of a deployment file: the indented form, closed by a line end. -/
def fileText (c : Configuration) : String := codec.pretty c ++ "\n"

end SchemaSurvey.Configuration
