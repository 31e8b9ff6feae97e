/-
  `Relation` — which relation a bare name stands for.

  Relations are exposed under their bare names, so of several relations with one name only the least
  in `Relation.order` is kept: the one in the schema with the smallest oid, then by kind letter,
  then by oid. The others are hidden, whatever becomes of the one that is kept.
-/
import SchemaSurvey.Survey.Schema

namespace SchemaSurvey.Survey

open Catalog

/-- The kinds of relation that have rows to query. Indexes, sequences, composite types and TOAST
tables have none. -/
inductive RelationKind where
  | ordinaryTable
  | view
  | materializedView
  | foreignTable
  | partitionedTable
deriving DecidableEq

namespace RelationKind

/-- The letter the catalog stores for the kind. -/
def letter : RelationKind → Char
  | ordinaryTable => 'r'
  | view => 'v'
  | materializedView => 'm'
  | foreignTable => 'f'
  | partitionedTable => 'p'

/-- The kind with a given letter. -/
def ofLetter? : Char → Option RelationKind
  | 'r' => some ordinaryTable
  | 'v' => some view
  | 'm' => some materializedView
  | 'f' => some foreignTable
  | 'p' => some partitionedTable
  | _ => none

theorem ofLetter?_letter (k : RelationKind) : ofLetter? k.letter = some k := by
  cases k <;> rfl

end RelationKind

/-- A relation with rows, in a schema that is not excluded. -/
structure Relation where
  oid : Oid
  schema : Oid
  name : String
  kind : RelationKind
deriving DecidableEq

namespace Relation

/-- Relations by name; relations of one name by schema, kind letter and oid. -/
def order (a b : Relation) : Ordering :=
  (compare a.name b.name).then <|
    (compare a.schema b.schema).then <|
      (compare a.kind.letter b.kind.letter).then <|
        compare a.oid b.oid

/-- The lesser of two relations; the first, if neither is. -/
def least (a b : Relation) : Relation := if b.order a = .lt then b else a

/-- The relation that a class row describes, if it has rows and its schema is listed. -/
def ofRow? (schemas : SortedMap Oid Schema) (row : ClassRow) : Option Relation :=
  if schemas.contains row.schema then
    (RelationKind.ofLetter? row.kind).map fun kind =>
      { oid := row.oid, schema := row.schema, name := row.name, kind }
  else
    none

/-- The least relation of each name. -/
def leastByName (candidates : List Relation) : SortedMap String Relation :=
  candidates.foldl (fun found r => found.insertWith r.name fun
    | none => r
    | some s => s.least r) ∅

end Relation

/-- The relations that their names stand for, by oid. Of two with one oid the one with the greater
name counts. -/
def Relation.ofRows (rows : List ClassRow) (schemas : SortedMap Oid Schema) :
    SortedMap Oid Relation :=
  .ofList <| (leastByName (rows.filterMap (ofRow? schemas))).values.map fun r =>
    (r.oid, r)

end SchemaSurvey.Survey
