/-
  `Constraint` — the keys of exposed relations.

  A primary key or unique constraint names its columns by number, a foreign key names columns on
  both sides. A constraint on an exposed relation is kept when every number names a live column, and
  a foreign key only if the relation it points at is exposed and both sides have the same length.
  What cannot be resolved is dropped as a whole and counted.
-/
import SchemaSurvey.Survey.Column

namespace SchemaSurvey.Survey

open Catalog

/-- A primary key or unique constraint with its columns resolved. -/
structure Uniqueness where
  oid : Oid
  schema : Oid
  name : String
  relation : Oid
  /-- The column names, in key order. -/
  columns : List String
deriving DecidableEq

/-- A foreign key with its columns resolved on both sides. -/
structure ForeignKey where
  oid : Oid
  schema : Oid
  name : String
  relation : Oid
  /-- The local column names, in key order. -/
  columns : List String
  foreignRelation : Oid
  /-- The referenced column names, position by position beside `columns`. -/
  foreignColumns : List String
deriving DecidableEq

/-- Each local column with the column it references. -/
def ForeignKey.pairs (f : ForeignKey) : List (String × String) := f.columns.zip f.foreignColumns

/-- What becomes of a constraint row. -/
inductive Resolution where
  /-- The row is of another kind, or not about an exposed relation. -/
  | ignored
  /-- The row is a key of an exposed relation that cannot be resolved. -/
  | dropped
  | unique (u : Uniqueness)
  | foreign (f : ForeignKey)
deriving DecidableEq

namespace Resolution

/-- Resolves a primary key or unique constraint. -/
def ofUnique (columns : Columns) (c : ConstraintRow) : Resolution :=
  match columns.names? c.relation c.key with
  | some names =>
    .unique { oid := c.oid, schema := c.schema, name := c.name, relation := c.relation,
              columns := names }
  | none => .dropped

/-- Resolves a foreign key. -/
def ofForeign (columns : Columns) (c : ConstraintRow) : Resolution :=
  if columns.contains c.foreignRelation && c.key.length == c.foreignKey.length then
    match columns.names? c.relation c.key, columns.names? c.foreignRelation c.foreignKey with
    | some names, some foreignNames =>
      .foreign { oid := c.oid, schema := c.schema, name := c.name, relation := c.relation,
                 columns := names, foreignRelation := c.foreignRelation,
                 foreignColumns := foreignNames }
    | _, _ => .dropped
  else
    .dropped

/-- Resolves a constraint row. -/
def ofRow (columns : Columns) (c : ConstraintRow) : Resolution :=
  if columns.contains c.relation then
    if c.kind == 'p' || c.kind == 'u' then ofUnique columns c
    else if c.kind == 'f' then ofForeign columns c
    else .ignored
  else
    .ignored

/-- The constraint, if it is a primary key or a unique constraint. -/
def unique? : Resolution → Option Uniqueness
  | .unique u => some u
  | _ => none

/-- The constraint, if it is a foreign key. -/
def foreign? : Resolution → Option ForeignKey
  | .foreign f => some f
  | _ => none

end Resolution

/-- The resolved constraints, each kind by oid, and the number of those that were dropped.
Constraints of one oid keep the order of their rows. -/
structure Constraints where
  uniqueness : List Uniqueness
  foreignKeys : List ForeignKey
  dropped : Nat
deriving DecidableEq

/-- Resolves the constraints of the exposed relations. -/
def Constraints.ofRows (rows : List ConstraintRow) (columns : Columns) : Constraints :=
  let resolved := rows.map (Resolution.ofRow columns)
  { uniqueness := (resolved.filterMap Resolution.unique?).mergeSort fun a b => a.oid ≤ b.oid
    foreignKeys := (resolved.filterMap Resolution.foreign?).mergeSort fun a b => a.oid ≤ b.oid
    dropped := resolved.count .dropped }

end SchemaSurvey.Survey
