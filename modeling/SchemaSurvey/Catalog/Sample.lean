/-
  `Sample` — catalogs built by hand.

  A `Sample` is a snapshot under construction together with the oid that was handed out last. Every
  new object takes the next oid, so objects built one after another never share one. A fresh sample
  holds the schemas and types of a stock server; `shop` adds two related tables.
-/
import SchemaSurvey.Survey.Comment

namespace SchemaSurvey.Catalog

/-! ### Well-known oids -/

namespace Sample.Oids

def pgCatalog : Oid := 11
def publicSchema : Oid := 2200
def informationSchema : Oid := 13000
def sales : Oid := 16400
def archive : Oid := 16500

def bool : Oid := 16
def int8 : Oid := 20
def int4 : Oid := 23
def text : Oid := 25
def float8 : Oid := 701
def numeric : Oid := 1700
def jsonb : Oid := 3802
def int4Array : Oid := 1007
def textArray : Oid := 1009
def record : Oid := 2249
def anyArray : Oid := 2277
def anyElement : Oid := 2283
/-- The row type of a user table. -/
def address : Oid := 16450

end Sample.Oids

open Sample.Oids

/-- A column to be created: name, type and not-null flag. -/
structure Sample.ColumnSpec where
  name : String
  type : Oid
  notNull : Bool
deriving DecidableEq

/-! ### Rows added under a given oid -/

namespace Snapshot

/-- The system schemas and types of a stock server, and three user schemas. -/
def stock : Snapshot where
  namespaces :=
    [⟨pgCatalog, "pg_catalog"⟩, ⟨publicSchema, "public"⟩,
      ⟨informationSchema, "information_schema"⟩, ⟨sales, "sales"⟩, ⟨archive, "archive"⟩]
  types :=
    [⟨bool, pgCatalog, "bool", 'b', 'B', 0⟩, ⟨int8, pgCatalog, "int8", 'b', 'N', 0⟩,
      ⟨int4, pgCatalog, "int4", 'b', 'N', 0⟩, ⟨text, pgCatalog, "text", 'b', 'S', 0⟩,
      ⟨float8, pgCatalog, "float8", 'b', 'N', 0⟩, ⟨numeric, pgCatalog, "numeric", 'b', 'N', 0⟩,
      ⟨jsonb, pgCatalog, "jsonb", 'b', 'U', 0⟩, ⟨int4Array, pgCatalog, "_int4", 'b', 'A', int4⟩,
      ⟨textArray, pgCatalog, "_text", 'b', 'A', text⟩,
      ⟨record, pgCatalog, "record", 'p', 'P', 0⟩, ⟨anyArray, pgCatalog, "anyarray", 'p', 'P', 0⟩,
      ⟨anyElement, pgCatalog, "anyelement", 'p', 'P', 0⟩,
      ⟨address, pgCatalog, "address", 'c', 'C', 0⟩]

/-- Adds a relation; its columns are numbered from 1 in the order given. -/
def addRelation (s : Snapshot) (oid schema : Oid) (name : String) (kind : Char)
    (columns : List Sample.ColumnSpec) : Snapshot :=
  { s with
    classes := s.classes ++ [{ oid, schema, name, kind }]
    attributes := s.attributes ++ columns.mapIdx fun i c =>
      { relation := oid, name := c.name, number := Int16.ofNat (i + 1), type := c.type,
        notNull := c.notNull, dropped := false } }

/-- Adds an ordinary table. -/
def addTable (s : Snapshot) (oid schema : Oid) (name : String)
    (columns : List Sample.ColumnSpec) : Snapshot :=
  s.addRelation oid schema name 'r' columns

/-- Adds a constraint of a given kind that references nothing. -/
def addConstraint (s : Snapshot) (oid relation : Oid) (name : String) (kind : Char)
    (key : List Int16) : Snapshot :=
  { s with
    constraints := s.constraints ++
      [{ oid, schema := publicSchema, name, relation, kind, key, foreignRelation := 0,
         foreignKey := [] }] }

/-- Makes the constraint that was added last point at columns of a relation. -/
def pointLast (s : Snapshot) (foreignRelation : Oid) (foreignKey : List Int16) : Snapshot :=
  { s with
    constraints := s.constraints.modify (s.constraints.length - 1) fun c =>
      { c with foreignRelation, foreignKey } }

/-- Adds a foreign key: a constraint that is made to point at what it references. -/
def addForeignKey (s : Snapshot) (oid relation : Oid) (name : String) (key : List Int16)
    (foreignRelation : Oid) (foreignKey : List Int16) : Snapshot :=
  (s.addConstraint oid relation name 'f' key).pointLast foreignRelation foreignKey

/-- Adds a comment on a relation (part 0) or on one of its columns. -/
def addComment (s : Snapshot) (relation : Oid) (part : Int32) (text : String) : Snapshot :=
  { s with
    descriptions := s.descriptions ++
      [{ object := relation, holder := Survey.relationHolder, part, text }] }

/-- Adds an aggregate function. -/
def addAggregate (s : Snapshot) (oid : Oid) (name : String) (arguments : List Oid)
    (returnType : Oid) (directArguments : Int16) : Snapshot :=
  { s with
    procedures := s.procedures ++
      [{ oid, name, schema := pgCatalog, kind := 'a',
         argumentCount := Int16.ofNat arguments.length, argumentTypes := arguments, returnType }]
    aggregates := s.aggregates ++ [{ procedure := oid, directArguments }] }

end Snapshot

/-! ### Objects under the next oid -/

/-- A snapshot under construction. -/
structure Sample where
  snapshot : Snapshot := .stock
  /-- The oid handed out last. -/
  lastOid : Oid := 60000
deriving DecidableEq

namespace Sample

/-- The schemas that a survey of a sample leaves out. -/
def excluded : List String := ["pg_catalog", "information_schema"]

/-- The next oid. -/
def nextOid (b : Sample) : Oid := b.lastOid + 1

/-- Builds an object under the next oid. -/
def place (b : Sample) (build : Snapshot → Oid → Snapshot) : Sample where
  snapshot := build b.snapshot b.nextOid
  lastOid := b.nextOid

/-- Adds a relation; its oid is `b.nextOid`. -/
def relation (b : Sample) (schema : Oid) (name : String) (kind : Char)
    (columns : List ColumnSpec) : Sample :=
  b.place fun s oid => s.addRelation oid schema name kind columns

/-- Adds an ordinary table; its oid is `b.nextOid`. -/
def table (b : Sample) (schema : Oid) (name : String) (columns : List ColumnSpec) : Sample :=
  b.relation schema name 'r' columns

/-- Adds a primary key. -/
def primaryKey (b : Sample) (relation : Oid) (name : String) (key : List Int16) : Sample :=
  b.place fun s oid => s.addConstraint oid relation name 'p' key

/-- Adds a unique constraint. -/
def unique (b : Sample) (relation : Oid) (name : String) (key : List Int16) : Sample :=
  b.place fun s oid => s.addConstraint oid relation name 'u' key

/-- Adds a check constraint. -/
def check (b : Sample) (relation : Oid) (name : String) (key : List Int16) : Sample :=
  b.place fun s oid => s.addConstraint oid relation name 'c' key

/-- Adds a foreign key. -/
def foreignKey (b : Sample) (relation : Oid) (name : String) (key : List Int16)
    (foreignRelation : Oid) (foreignKey : List Int16) : Sample :=
  b.place fun s oid => s.addForeignKey oid relation name key foreignRelation foreignKey

/-- Adds a comment, which takes no oid. -/
def comment (b : Sample) (relation : Oid) (part : Int32) (text : String) : Sample :=
  { b with snapshot := b.snapshot.addComment relation part text }

/-- Adds an aggregate function; its oid is `b.nextOid`. -/
def aggregate (b : Sample) (name : String) (arguments : List Oid) (returnType : Oid)
    (directArguments : Int16) : Sample :=
  b.place fun s oid => s.addAggregate oid name arguments returnType directArguments

/-- The columns of the shop's customers. -/
def customerColumns : List ColumnSpec :=
  [⟨"id", int4, true⟩, ⟨"name", text, true⟩, ⟨"email", text, false⟩]

/-- The columns of the shop's orders. -/
def orderColumns : List ColumnSpec :=
  [⟨"id", int4, true⟩, ⟨"customer_id", int4, true⟩, ⟨"total", numeric, false⟩]

/-- Adds two related tables, customers and orders, with their keys. -/
def shop (b : Sample) : Sample :=
  let customers := b.nextOid
  let b := b.table publicSchema "customers" customerColumns
  let b := b.primaryKey customers "customers_pkey" [1]
  let b := b.unique customers "customers_email_key" [3]
  let orders := b.nextOid
  let b := b.table publicSchema "orders" orderColumns
  let b := b.primaryKey orders "orders_pkey" [1]
  b.foreignKey orders "orders_customer_id_fkey" [2] customers [1]

end Sample

end SchemaSurvey.Catalog
