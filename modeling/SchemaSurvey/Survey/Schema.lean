/-
  `Schema` — the schemas a survey looks into.

  Exclusion is by exact name: the server has already folded the case of catalog names. Later stages
  look schemas up by oid only.
-/
import SchemaSurvey.Catalog.Row
import SchemaSurvey.SortedMap.Basic

namespace SchemaSurvey.Survey

open Catalog

/-- A schema that is not excluded. -/
structure Schema where
  oid : Oid
  name : String
deriving DecidableEq

/-- The schemas whose names are not excluded, by oid. Of two rows with one oid the later counts. -/
def Schema.ofRows (rows : List NamespaceRow) (excluded : List String) : SortedMap Oid Schema :=
  .ofList <| (rows.filter fun row => !excluded.contains row.name).map fun row =>
    (row.oid, { oid := row.oid, name := row.name })

end SchemaSurvey.Survey
