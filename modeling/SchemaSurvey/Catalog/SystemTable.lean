/-
  `SystemTable` — the eight tables of `pg_catalog` that a survey reads, their columns and the query
  that fetches them.

  A query selects the declared columns in order. A column whose stored type has no plain wire form
  is cast in the select list and keeps its name. Some tables carry a filter, which only saves
  traffic: the survey ignores by itself every row that a filter would keep back.
-/

namespace SchemaSurvey.Catalog

/-- What a column holds once it has been fetched. -/
inductive ColumnKind where
  | oid
  | smallInt
  | integer
  | boolean
  | text
  /-- One letter, fetched as text. -/
  | letter
  | oidArray
  | smallIntArray
deriving DecidableEq

/-- The type a column is cast to on its way out, if it has to be. -/
def ColumnKind.cast? : ColumnKind → Option String
  | .letter => some "text"
  | .oidArray => some "oid[]"
  | _ => none

/-- A selected column. -/
structure ColumnSpec where
  name : String
  kind : ColumnKind
  /-- The cast in the select list; most kinds settle it by themselves. -/
  cast? : Option String := kind.cast?
deriving DecidableEq

/-- The column's item in a select list. -/
def ColumnSpec.selectItem (c : ColumnSpec) : String :=
  match c.cast? with
  | some type => c.name ++ "::" ++ type ++ " AS " ++ c.name
  | none => c.name

/-- A table of the system catalog. -/
inductive SystemTable where
  | namespaces
  | classes
  | types
  | attributes
  | descriptions
  | constraints
  | procedures
  | aggregates
deriving DecidableEq

namespace SystemTable

/-- The tables, in the order in which they are fetched. -/
def all : List SystemTable :=
  [namespaces, classes, types, attributes, descriptions, constraints, procedures, aggregates]

/-- The table's name in `pg_catalog`. -/
def name : SystemTable → String
  | namespaces => "pg_namespace"
  | classes => "pg_class"
  | types => "pg_type"
  | attributes => "pg_attribute"
  | descriptions => "pg_description"
  | constraints => "pg_constraint"
  | procedures => "pg_proc"
  | aggregates => "pg_aggregate"

/-- The selected columns. -/
def columns : SystemTable → List ColumnSpec
  | namespaces => [{ name := "oid", kind := .oid }, { name := "nspname", kind := .text }]
  | classes =>
    [{ name := "oid", kind := .oid }, { name := "relnamespace", kind := .oid },
      { name := "relname", kind := .text }, { name := "relkind", kind := .letter }]
  | types =>
    [{ name := "oid", kind := .oid }, { name := "typnamespace", kind := .oid },
      { name := "typname", kind := .text }, { name := "typtype", kind := .letter },
      { name := "typcategory", kind := .letter }, { name := "typelem", kind := .oid }]
  | attributes =>
    [{ name := "attrelid", kind := .oid }, { name := "attname", kind := .text },
      { name := "attnum", kind := .smallInt }, { name := "atttypid", kind := .oid },
      { name := "attnotnull", kind := .boolean }, { name := "attisdropped", kind := .boolean }]
  | descriptions =>
    [{ name := "objoid", kind := .oid }, { name := "classoid", kind := .oid },
      { name := "objsubid", kind := .integer }, { name := "description", kind := .text }]
  | constraints =>
    [{ name := "oid", kind := .oid }, { name := "connamespace", kind := .oid },
      { name := "conname", kind := .text }, { name := "conrelid", kind := .oid },
      { name := "contype", kind := .letter }, { name := "conkey", kind := .smallIntArray },
      { name := "confrelid", kind := .oid }, { name := "confkey", kind := .smallIntArray }]
  | procedures =>
    [{ name := "oid", kind := .oid }, { name := "proname", kind := .text },
      { name := "pronamespace", kind := .oid }, { name := "prokind", kind := .letter },
      { name := "pronargs", kind := .smallInt }, { name := "proargtypes", kind := .oidArray },
      { name := "prorettype", kind := .oid }]
  | aggregates =>
    -- The function is stored as a name-like reference; cast, it arrives as a plain oid.
    [{ name := "aggfnoid", kind := .oid, cast? := some "oid" },
      { name := "aggnumdirectargs", kind := .smallInt }]

/-- The rows worth fetching, when that is not all of them. -/
def filter? : SystemTable → Option String
  | descriptions => some "classoid = 'pg_catalog.pg_class'::regclass"
  | constraints => some "contype IN ('p', 'u', 'f')"
  | procedures => some "prokind = 'a'"
  | _ => none

/-- The query that fetches the table. -/
def select (t : SystemTable) : String :=
  "SELECT " ++ ", ".intercalate (t.columns.map ColumnSpec.selectItem)
    ++ " FROM pg_catalog." ++ t.name
    ++ match t.filter? with
      | some condition => " WHERE " ++ condition
      | none => ""

end SystemTable

end SchemaSurvey.Catalog
