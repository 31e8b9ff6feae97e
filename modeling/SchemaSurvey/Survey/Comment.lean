/-
  `Comment` — the texts attached to exposed relations and to their columns.

  A comment belongs to a relation when it is stored against `pg_class`; part 0 is the relation
  itself and any other part is a column number. Of several comments on one thing the last row
  counts, and a comment on anything that is not exposed is ignored.
-/
import SchemaSurvey.Survey.Column

namespace SchemaSurvey.Survey

open Catalog

/-- The oid of `pg_class` itself, the system table that relations and their columns are described
under. -/
def relationHolder : Oid := 1259

/-- The text of the last row about one part of a relation. -/
def lastComment? (rows : List DescriptionRow) (relation : Oid) (part : Int32) : Option String :=
  ((rows.filter fun d =>
    d.holder == relationHolder && d.object == relation && d.part == part).getLast?).map
      DescriptionRow.text

/-- The comments on one relation. -/
structure Comments where
  /-- On the relation as a whole. -/
  whole : Option String
  /-- On its columns, by column number. -/
  columns : SortedMap Int16 String
deriving DecidableEq

/-- The comments on a relation with given columns. -/
def Comments.ofRows (rows : List DescriptionRow) (relation : Oid) (columns : List Column) :
    Comments where
  whole := lastComment? rows relation 0
  columns := .ofList <| columns.filterMap fun c =>
    (lastComment? rows relation c.number.toInt32).map (c.number, ·)

/-- The comments on the exposed relations, by relation. -/
def Comments.ofColumns (rows : List DescriptionRow) (columns : Columns) :
    SortedMap Oid Comments :=
  columns.map fun relation cs => .ofRows rows relation cs

namespace Comments

/-- The comment on a relation. -/
def relation? (comments : SortedMap Oid Comments) (relation : Oid) : Option String :=
  (comments.get? relation).bind Comments.whole

/-- The comment on a column. -/
def column? (comments : SortedMap Oid Comments) (relation : Oid) (number : Int16) :
    Option String :=
  (comments.get? relation).bind fun c => c.columns.get? number

end Comments

end SchemaSurvey.Survey
