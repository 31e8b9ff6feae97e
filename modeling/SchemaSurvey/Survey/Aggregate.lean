/-
  `Aggregate` — the aggregate functions that reduce one column to one value.

  An aggregate qualifies when it takes exactly one aggregated argument and no direct ones, and both
  its argument and its return type are usable; polymorphic signatures fall out because pseudo types
  are not. Overloads that share argument type and name collapse onto the least in `Overload.order`.
-/
import SchemaSurvey.Survey.ScalarType

namespace SchemaSurvey

namespace Catalog.ProcedureRow

/-- Whether the function is an aggregate. -/
def isAggregate (p : ProcedureRow) : Bool := p.kind == 'a'

/-- The single declared argument, if the function takes exactly one. -/
def singleArgument? (p : ProcedureRow) : Option Oid :=
  match p.argumentTypes with
  | [argument] => if p.argumentCount == 1 then some argument else none
  | _ => none

end Catalog.ProcedureRow

namespace Survey

open Catalog

/-- An aggregate of one argument, with its types resolved. -/
structure Overload where
  oid : Oid
  name : String
  schema : Oid
  argumentType : TypeName
  returnType : TypeName
deriving DecidableEq

namespace Overload

/-- Overloads by argument type, name and return type. Schema and oid only make the order total: they
never change which return type is found first. -/
def order (a b : Overload) : Ordering :=
  (compare a.argumentType b.argumentType).then <|
    (compare a.name b.name).then <|
      (compare a.returnType b.returnType).then <|
        (compare a.schema b.schema).then <|
          compare a.oid b.oid

/-- The lesser of two overloads; the first, if neither is. -/
def least (a b : Overload) : Overload := if b.order a = .lt then b else a

/-- The overload that a function row describes, if it qualifies. -/
def ofRow? (directArguments : SortedMap Oid Int16) (types : SortedMap Oid ScalarType)
    (p : ProcedureRow) : Option Overload :=
  if p.isAggregate && directArguments.get? p.oid == some 0 then do
    let argument ← types.get? (← p.singleArgument?)
    let result ← types.get? p.returnType
    some { oid := p.oid, name := p.name, schema := p.schema, argumentType := argument.name,
           returnType := result.name }
  else
    none

/-- The qualifying aggregates, in the order of their rows. Of two `pg_aggregate` rows about one
function the later counts. -/
def qualifying (procedures : List ProcedureRow) (aggregates : List AggregateRow)
    (types : SortedMap Oid ScalarType) : List Overload :=
  procedures.filterMap <|
    ofRow? (.ofList (aggregates.map fun a => (a.procedure, a.directArguments))) types

end Overload

/-- The chosen overloads, by argument type and then by name. -/
abbrev AggregateCatalog := SortedMap TypeName (SortedMap String Overload)

namespace AggregateCatalog

/-- Lists an overload, unless a lesser one is listed in its place. -/
def add (catalog : AggregateCatalog) (o : Overload) : AggregateCatalog :=
  catalog.insertWith o.argumentType fun byName =>
    (byName.getD ∅).insertWith o.name fun
      | none => o
      | some p => p.least o

/-- The least overload for each argument type and name. -/
def ofOverloads (overloads : List Overload) : AggregateCatalog := overloads.foldl add ∅

/-- The number of overloads listed. -/
def entryCount (catalog : AggregateCatalog) : Nat :=
  (catalog.values.flatMap SortedMap.toList).length

end AggregateCatalog

end Survey

end SchemaSurvey
