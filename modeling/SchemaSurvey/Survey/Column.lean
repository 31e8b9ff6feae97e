/-
  `Column` — the columns of a relation, and whether the relation is exposed.

  A relation is exposed all or nothing. It must have a live column, and every live column must have
  a usable type: a single column of another type hides the relation. What each relation comes to is
  its `Exposure`, decided from its own attribute rows alone.
-/
import SchemaSurvey.Survey.Relation
import SchemaSurvey.Survey.ScalarType

namespace SchemaSurvey

/-- A live attribute is a user column that has not been dropped. -/
def Catalog.AttributeRow.isLive (a : Catalog.AttributeRow) : Bool := !a.dropped && 0 < a.number

namespace Survey

open Catalog

/-- A live column of usable type. -/
structure Column where
  relation : Oid
  name : String
  number : Int16
  typeOid : Oid
  type : TypeName
  nullability : Document.Nullability
deriving DecidableEq

/-- The column that an attribute row describes, if its type is usable. -/
def Column.ofRow? (types : SortedMap Oid ScalarType) (a : AttributeRow) : Option Column :=
  (types.get? a.type).map fun t =>
    { relation := a.relation, name := a.name, number := a.number, typeOid := t.oid, type := t.name,
      nullability := .ofNotNull a.notNull }

/-- What a relation comes to. -/
inductive Exposure where
  /-- It has no live column. -/
  | bare
  /-- A live column has a type that is not usable; the first such type is named. -/
  | hidden (type : Oid)
  /-- All live columns have usable types. They are listed by number, and columns of one number in
  the order of their rows. -/
  | exposed (columns : List Column)
deriving DecidableEq

namespace Exposure

/-- Decides on a relation by its live attribute rows. -/
def ofRows (types : SortedMap Oid ScalarType) (live : List AttributeRow) : Exposure :=
  match live.find? fun a => !types.contains a.type with
  | some a => .hidden a.type
  | none =>
    match live.filterMap (Column.ofRow? types) with
    | [] => .bare
    | columns => .exposed (columns.mergeSort fun a b => a.number ≤ b.number)

/-- The columns, if the relation is exposed. -/
def columns? : Exposure → Option (List Column)
  | .exposed columns => some columns
  | _ => none

/-- The type that hides the relation, if one does. -/
def hiddenBy? : Exposure → Option Oid
  | .hidden type => some type
  | _ => none

end Exposure

/-- The live attribute rows of one relation, in the order of the rows. -/
def liveRows (rows : List AttributeRow) (relation : Oid) : List AttributeRow :=
  rows.filter fun a => a.relation == relation && a.isLive

/-- What each relation comes to. -/
def Exposure.ofRelations (rows : List AttributeRow) (relations : SortedMap Oid Relation)
    (types : SortedMap Oid ScalarType) : SortedMap Oid Exposure :=
  relations.map fun oid _ => .ofRows types (liveRows rows oid)

/-- The columns of the exposed relations, by relation. -/
abbrev Columns := SortedMap Oid (List Column)

namespace Columns

/-- The columns of the exposed relations. -/
def ofExposures (exposures : SortedMap Oid Exposure) : Columns :=
  exposures.filterMap fun _ e => e.columns?

/-- The column of a relation with a given number; of several, the first listed. -/
def column? (columns : Columns) (relation : Oid) (number : Int16) : Option Column :=
  (columns.get? relation).bind fun cs => cs.find? fun c => c.number == number

/-- The names of the columns with given numbers, if each number names a column. -/
def names? (columns : Columns) (relation : Oid) (numbers : List Int16) : Option (List String) :=
  numbers.mapM fun number => (columns.column? relation number).map Column.name

end Columns

end Survey

end SchemaSurvey
