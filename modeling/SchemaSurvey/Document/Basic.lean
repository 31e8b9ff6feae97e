/-
  `Document` — the description of a database's exposed schema.

  A document lists tables by name and aggregate functions by argument type. It is a plain value:
  names are the keys, maps are sorted, and two documents with the same content are equal.
-/
import SchemaSurvey.SortedMap.Basic

namespace SchemaSurvey

/-- The name of a scalar type, as the catalog spells it (`int4`, `text`, …). -/
abbrev TypeName := String

namespace Document

/-- Whether a column admits null. -/
inductive Nullability where
  | nullable
  | nonNullable
deriving DecidableEq

/-- A column is taken to admit null unless its not-null flag is set. -/
def Nullability.ofNotNull (notNull : Bool) : Nullability :=
  if notNull then .nonNullable else .nullable

/-- A column of a table or of a native query. -/
structure Column where
  name : String
  type : TypeName
  nullability : Nullability := .nullable
  description : Option String := none
deriving DecidableEq

/-- A foreign key: the table it points at and, column by column, what is matched with what. -/
structure ForeignKey where
  table : String
  /-- Local column to referenced column. -/
  columns : SortedMap String String
deriving DecidableEq

/-- A table, view or other relation with rows. -/
structure Table where
  schema : String
  name : String
  description : Option String := none
  columns : SortedMap String Column
  /-- Constraint name to the columns that are unique together, in key order. -/
  uniqueness : SortedMap String (List String) := ∅
  foreignKeys : SortedMap String ForeignKey := ∅
deriving DecidableEq

/-- An aggregate function of one argument. -/
structure Aggregate where
  returnType : TypeName
deriving DecidableEq

/-- Tables by name. -/
abbrev Tables := SortedMap String Table

/-- Aggregate functions by argument type, then by name. -/
abbrev Aggregates := SortedMap TypeName (SortedMap String Aggregate)

end Document

/-- The exposed schema of a database. -/
structure Document where
  tables : Document.Tables := ∅
  aggregates : Document.Aggregates := ∅
deriving DecidableEq

end SchemaSurvey
