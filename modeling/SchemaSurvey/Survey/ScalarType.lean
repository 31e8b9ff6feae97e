/-
  `ScalarType` — the types that a column or an aggregate may have.

  Base, domain, enumeration and range types are usable; composite and pseudo types are not, and
  neither are arrays. A type counts as an array when it has an element type and the catalog puts it
  among the arrays: types with elements outside that category (points, names) stay usable.
-/
import SchemaSurvey.Catalog.Row
import SchemaSurvey.Document.Basic

namespace SchemaSurvey

namespace Catalog.TypeRow

/-- Composite and pseudo types have no scalar values. -/
def isScalarKind (t : TypeRow) : Bool := t.kind != 'c' && t.kind != 'p'

/-- An array has an element type and is categorised as an array. -/
def isArray (t : TypeRow) : Bool := t.element != 0 && t.category == 'A'

/-- Whether columns and aggregates of this type can be exposed. -/
def isUsable (t : TypeRow) : Bool := t.isScalarKind && !t.isArray

end Catalog.TypeRow

namespace Survey

open Catalog

/-- A usable type. -/
structure ScalarType where
  oid : Oid
  schema : Oid
  name : TypeName
deriving DecidableEq

/-- The usable types, by oid. Of two rows with one oid the later counts. -/
def ScalarType.ofRows (rows : List TypeRow) : SortedMap Oid ScalarType :=
  .ofList <| (rows.filter TypeRow.isUsable).map fun row =>
    (row.oid, { oid := row.oid, schema := row.schema, name := row.name })

end Survey

end SchemaSurvey
