/-
  `Format` — the JSON form of a document.

  Tables, columns and the rest are objects with fixed members. Descriptions are left out when there
  are none; constraints, nullability and the like are always written and may be left out when read.
-/
import SchemaSurvey.Document.Basic
import SchemaSurvey.Json.Enumeration
import SchemaSurvey.Json.Record

namespace SchemaSurvey.Document

open Json

/-- Nullability, by name. -/
def Nullability.enumeration : Enumeration Nullability where
  all := [.nullable, .nonNullable]
  name
    | .nullable => "nullable"
    | .nonNullable => "nonNullable"

/-- A column. -/
def Column.codec : Codec Column :=
  .record "ColumnInfo"
    (.cons (.required "name" .string) <|
      .cons (.required "type" .string) <|
      .cons (.defaulted "nullable" Nullability.enumeration.codec .nullable) <|
      .cons (.optional "description" .string) .nil)
    (fun c => (c.name, c.type, c.nullability, c.description, ()))
    fun (name, type, nullability, description, _) => { name, type, nullability, description }

/-- A foreign key. -/
def ForeignKey.codec : Codec ForeignKey :=
  .record "ForeignRelation"
    (.cons (.required "foreignTable" .string) <|
      .cons (.required "columnMapping" (.sortedMap .string)) .nil)
    (fun f => (f.table, f.columns, ()))
    fun (table, columns, _) => { table, columns }

/-- Constraints by name. -/
def uniquenessCodec : Codec (SortedMap String (List String)) := .sortedMap (.list .string)

/-- Foreign keys by name. -/
def foreignKeysCodec : Codec (SortedMap String ForeignKey) := .sortedMap ForeignKey.codec

/-- A table. -/
def Table.codec : Codec Table :=
  .record "TableInfo"
    (.cons (.required "schemaName" .string) <|
      .cons (.required "tableName" .string) <|
      .cons (.optional "description" .string) <|
      .cons (.required "columns" (.sortedMap Column.codec)) <|
      .cons (.defaulted "uniquenessConstraints" uniquenessCodec ∅) <|
      .cons (.defaulted "foreignRelations" foreignKeysCodec ∅) .nil)
    (fun t => (t.schema, t.name, t.description, t.columns, t.uniqueness, t.foreignKeys, ()))
    fun (schema, name, description, columns, uniqueness, foreignKeys, _) =>
      { schema, name, description, columns, uniqueness, foreignKeys }

/-- An aggregate function. -/
def Aggregate.codec : Codec Aggregate :=
  .record "AggregateFunction"
    (.cons (.required "returnType" .string) .nil)
    (fun a => (a.returnType, ()))
    fun (returnType, _) => { returnType }

/-- Tables by name. -/
def tablesCodec : Codec Tables := .sortedMap Table.codec

/-- Aggregate functions by argument type and name. -/
def aggregatesCodec : Codec Aggregates := .sortedMap (.sortedMap Aggregate.codec)

/-- The JSON form of a document. -/
def codec : Codec Document :=
  .record "IntrospectionResult"
    (.cons (.required "Tables" tablesCodec) <|
      .cons (.required "AggregateFunctions" aggregatesCodec) .nil)
    (fun d => (d.tables, d.aggregates, ()))
    fun (tables, aggregates, _) => { tables, aggregates }

end SchemaSurvey.Document
