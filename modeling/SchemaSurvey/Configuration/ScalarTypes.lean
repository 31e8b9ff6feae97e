/-
  `ScalarTypes` — the scalar types that a configuration uses, and what can be aggregated over them.

  A type is used when a column of a table, a column or argument of a native query, or the argument
  of an aggregate function has it.
-/
import SchemaSurvey.Configuration.Basic

namespace SchemaSurvey.Configuration

/-- The types of the columns of tables. -/
def tableTypes (c : Configuration) : List TypeName :=
  c.metadata.tables.values.flatMap fun t => t.columns.values.map Document.Column.type

/-- The types of the columns and arguments of native queries. -/
def nativeQueryTypes (c : Configuration) : List TypeName :=
  c.metadata.nativeQueries.values.flatMap fun q =>
    (q.columns.values ++ q.arguments.values).map Document.Column.type

/-- The functions that aggregate a type, with their return types. -/
def aggregatesOver (c : Configuration) (type : TypeName) : SortedMap String TypeName :=
  ((c.aggregates.get? type).getD ∅).map fun _ a => a.returnType

/-- The types in use, ascending, each once. -/
def occurringTypes (c : Configuration) : List TypeName :=
  (SortedMap.ofList <| (c.tableTypes ++ c.nativeQueryTypes ++ c.aggregates.keys).map fun type =>
    (type, ())).keys

/-- Every type in use, with the functions that aggregate it. -/
def scalarTypes (c : Configuration) : SortedMap TypeName (SortedMap String TypeName) :=
  .ofList <| c.occurringTypes.map fun type => (type, c.aggregatesOver type)

end SchemaSurvey.Configuration
