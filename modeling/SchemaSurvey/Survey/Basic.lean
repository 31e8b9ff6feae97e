/-
  `Survey` — from a snapshot of the catalog to the exposed schema.

  `survey` runs the stages, each a pure function of the snapshot and of the stages before it, and
  keeps all their results. The `Document` and the events are read off the finished survey, so the
  counts that the events report and the content of the document come from the same values.
-/
import SchemaSurvey.Event
import SchemaSurvey.Survey.Aggregate
import SchemaSurvey.Survey.Comment
import SchemaSurvey.Survey.Constraint

namespace SchemaSurvey

open Survey

/-- The results of all stages. -/
structure Survey where
  schemas : SortedMap Oid Schema
  types : SortedMap Oid ScalarType
  /-- The relations that bare names stand for. -/
  relations : SortedMap Oid Relation
  /-- What each of them comes to. -/
  exposures : SortedMap Oid Exposure
  /-- The columns of those that are exposed. -/
  columns : Columns
  comments : SortedMap Oid Comments
  constraints : Constraints
  /-- The qualifying aggregates. -/
  overloads : List Overload
  /-- Those of them that are chosen. -/
  aggregates : AggregateCatalog

/-- Surveys a snapshot, leaving out the schemas named in `excluded`. -/
def survey (s : Catalog.Snapshot) (excluded : List String) : Survey :=
  let schemas := Schema.ofRows s.namespaces excluded
  let types := ScalarType.ofRows s.types
  let relations := Relation.ofRows s.classes schemas
  let exposures := Exposure.ofRelations s.attributes relations types
  let columns := Columns.ofExposures exposures
  let overloads := Overload.qualifying s.procedures s.aggregates types
  { schemas, types, relations, exposures, columns
    comments := Comments.ofColumns s.descriptions columns
    constraints := Constraints.ofRows s.constraints columns
    overloads
    aggregates := .ofOverloads overloads }

namespace Survey

/-! ### The document -/

/-- The entry of a column. -/
def columnEntry (v : Survey) (c : Survey.Column) : Document.Column where
  name := c.name
  type := c.type
  nullability := c.nullability
  description := Comments.column? v.comments c.relation c.number

/-- The primary keys and unique constraints of a relation. -/
def uniquenessOf (v : Survey) (relation : Oid) : SortedMap String (List String) :=
  .ofList <| (v.constraints.uniqueness.filter fun u => u.relation == relation).map fun u =>
    (u.name, u.columns)

/-- The foreign keys of a relation. -/
def foreignKeysOf (v : Survey) (relation : Oid) : SortedMap String Document.ForeignKey :=
  .ofList <| (v.constraints.foreignKeys.filter fun f => f.relation == relation).filterMap fun f =>
    (v.relations.get? f.foreignRelation).map fun foreign =>
      (f.name, { table := foreign.name, columns := .ofList f.pairs })

/-- The table of an exposed relation. -/
def table? (v : Survey) (relation : Oid) (columns : List Survey.Column) :
    Option Document.Table := do
  let r ← v.relations.get? relation
  let schema ← v.schemas.get? r.schema
  some { schema := schema.name
         name := r.name
         description := Comments.relation? v.comments relation
         columns := .ofList (columns.map fun c => (c.name, v.columnEntry c))
         uniqueness := v.uniquenessOf relation
         foreignKeys := v.foreignKeysOf relation }

/-- The tables, by name. -/
def tables (v : Survey) : Document.Tables :=
  .ofList <| v.columns.toList.filterMap fun entry =>
    (v.table? entry.1 entry.2).map fun t => (t.name, t)

/-- The exposed schema. -/
def document (v : Survey) : Document where
  tables := v.tables
  aggregates :=
    v.aggregates.map fun _ byName => byName.map fun _ o => { returnType := o.returnType }

/-! ### The events -/

/-- The relations that a column hides, each with the type that hides it. -/
def hidden (v : Survey) : SortedMap Oid Oid := v.exposures.filterMap fun _ e => e.hiddenBy?

/-- How many qualifying aggregates gave way to a lesser overload. -/
def collapsed (v : Survey) : Nat := v.overloads.length - v.aggregates.entryCount

/-- What a survey reports: hidden relations first, then the totals. -/
def events (v : Survey) : List Event :=
  v.hidden.toList.filterMap (fun entry =>
    (v.relations.get? entry.1).map fun r => .relationHidden r.name entry.2)
  ++ [ .constraintsResolved v.constraints.uniqueness.length v.constraints.foreignKeys.length
         v.constraints.dropped,
       .aggregatesResolved v.aggregates.size v.collapsed,
       .schemaResolved v.schemas.size v.relations.size v.document.tables.size
         v.document.aggregates.size ]

end Survey

/-- The exposed schema of a snapshot. -/
def Catalog.Snapshot.resolve (s : Catalog.Snapshot) (excluded : List String) : Document :=
  (survey s excluded).document

end SchemaSurvey
