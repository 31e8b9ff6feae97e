/-
  `Row` — the rows of the system catalog that a survey reads.

  Each structure holds the selected columns of one table of `pg_catalog`, undigested: kinds and
  categories are the single letters the server stores, references are bare oids that may dangle, and
  nothing is assumed about uniqueness. A `Snapshot` is the eight lists of rows read at one moment.
-/

namespace SchemaSurvey

/-- The identifier of a catalog object. -/
abbrev Oid := UInt32

namespace Catalog

/-- A schema: a row of `pg_namespace`. -/
structure NamespaceRow where
  oid : Oid
  name : String
deriving DecidableEq

/-- A relation or relation-like object: a row of `pg_class`. -/
structure ClassRow where
  oid : Oid
  /-- The schema the relation lives in. -/
  schema : Oid
  name : String
  /-- One letter; see `Survey.RelationKind`. -/
  kind : Char
deriving DecidableEq

/-- A data type: a row of `pg_type`. -/
structure TypeRow where
  oid : Oid
  schema : Oid
  name : String
  /-- One letter; `c` is composite, `p` a pseudo type. -/
  kind : Char
  /-- One letter; `A` holds the arrays. -/
  category : Char
  /-- The element type, or 0. -/
  element : Oid
deriving DecidableEq

/-- A column of a relation: a row of `pg_attribute`. -/
structure AttributeRow where
  relation : Oid
  name : String
  /-- Positive for user columns, negative for system columns. -/
  number : Int16
  type : Oid
  notNull : Bool
  /-- A dropped column keeps its row and its number. -/
  dropped : Bool
deriving DecidableEq

/-- A comment: a row of `pg_description`. -/
structure DescriptionRow where
  object : Oid
  /-- The system table in which `object` is an oid. -/
  holder : Oid
  /-- A column number for a comment on a column, else 0. -/
  part : Int32
  text : String
deriving DecidableEq

/-- A constraint: a row of `pg_constraint`. -/
structure ConstraintRow where
  oid : Oid
  schema : Oid
  name : String
  relation : Oid
  /-- One letter; `p` primary key, `u` unique, `f` foreign key. -/
  kind : Char
  /-- The constrained column numbers, in key order. -/
  key : List Int16
  /-- The referenced relation of a foreign key, else 0. -/
  foreignRelation : Oid
  /-- The referenced column numbers, position by position beside `key`. -/
  foreignKey : List Int16
deriving DecidableEq

/-- A function: a row of `pg_proc`. -/
structure ProcedureRow where
  oid : Oid
  name : String
  schema : Oid
  /-- One letter; `a` is an aggregate. -/
  kind : Char
  argumentCount : Int16
  /-- The declared input argument types. -/
  argumentTypes : List Oid
  returnType : Oid
deriving DecidableEq

/-- What makes a function an aggregate: a row of `pg_aggregate`. -/
structure AggregateRow where
  /-- The function's oid. -/
  procedure : Oid
  /-- How many arguments are taken directly, outside the aggregated rows. -/
  directArguments : Int16
deriving DecidableEq

/-- The catalog at one moment. -/
structure Snapshot where
  namespaces : List NamespaceRow := []
  classes : List ClassRow := []
  types : List TypeRow := []
  attributes : List AttributeRow := []
  descriptions : List DescriptionRow := []
  constraints : List ConstraintRow := []
  procedures : List ProcedureRow := []
  aggregates : List AggregateRow := []
deriving DecidableEq

end Catalog

end SchemaSurvey
