/-
  `Cell` — rows as a database sends them, and how they are read as catalog rows.

  A cell holds a value of one of the kinds that the catalog's columns have, or nothing. Reading a
  row takes its columns one after another and stops at the first that cannot be taken. Only the two
  column lists of a constraint may be missing: they are empty then.
-/
import SchemaSurvey.Catalog.Row
import SchemaSurvey.Failure

namespace SchemaSurvey.Database

/-- A cell of a row. -/
inductive Cell where
  | null
  | oid (value : Oid)
  | smallInt (value : Int16)
  | integer (value : Int32)
  | boolean (value : Bool)
  | text (value : String)
  | oidArray (items : List (Option Oid))
  | smallIntArray (items : List (Option Int16))
deriving DecidableEq

namespace Cell

/-- The oid, if the cell holds one. -/
def oid? : Cell → Option Oid
  | oid n => some n
  | _ => none

/-- The 16-bit number, if the cell holds one. -/
def smallInt? : Cell → Option Int16
  | smallInt n => some n
  | _ => none

/-- The 32-bit number, if the cell holds one. -/
def integer? : Cell → Option Int32
  | integer n => some n
  | _ => none

/-- The truth value, if the cell holds one. -/
def boolean? : Cell → Option Bool
  | boolean b => some b
  | _ => none

/-- The text, if the cell holds one. -/
def text? : Cell → Option String
  | text s => some s
  | _ => none

/-- The items, when none of them is missing. -/
def allPresent {α : Type} : List (Option α) → Option (List α)
  | [] => some []
  | some a :: rest => (allPresent rest).map (a :: ·)
  | none :: _ => none

/-- The oids, if the cell holds an array of them with none missing. -/
def oids? : Cell → Option (List Oid)
  | oidArray items => allPresent items
  | _ => none

/-- The 16-bit numbers, if the cell holds an array of them with none missing. -/
def smallInts? : Cell → Option (List Int16)
  | smallIntArray items => allPresent items
  | _ => none

/-- A list that may be missing altogether. -/
def smallIntsOrNone? : Cell → Option (List Int16)
  | null => some []
  | c => c.smallInts?

end Cell

/-! ### Reading a row -/

/-- Why a cell cannot be taken. -/
inductive CellError where
  /-- It holds nothing, or something of another kind. -/
  | unreadable (column : Nat)
  /-- It should hold a letter and holds an empty text. -/
  | noLetter (column : String)
deriving DecidableEq

/-- The failure to report. -/
def CellError.toFailure : CellError → Failure
  | unreadable column => ⟨.catalog, "catalog_unavailable", s!"error deserializing column {column}"⟩
  | noLetter column => ⟨.decode, "empty_char_column", s!"column '{column}' is empty"⟩

/-- A row as it arrives, in the order of the selected columns. -/
abbrev Row := List Cell

namespace Row

/-- Takes a column. -/
def take {α : Type} (row : Row) (column : Nat) (read? : Cell → Option α) : Except CellError α :=
  match row[column]?.bind read? with
  | some a => .ok a
  | none => .error (.unreadable column)

/-- Takes a column of letters: the first character of its text. -/
def takeLetter (row : Row) (column : Nat) (name : String) : Except CellError Char := do
  match (← row.take column Cell.text?).toList with
  | letter :: _ => .ok letter
  | [] => .error (.noLetter name)

/-- Reads a row of `pg_namespace`. -/
def toNamespace (row : Row) : Except CellError Catalog.NamespaceRow := do
  let oid ← row.take 0 Cell.oid?
  let name ← row.take 1 Cell.text?
  return { oid, name }

/-- Reads a row of `pg_class`. -/
def toClass (row : Row) : Except CellError Catalog.ClassRow := do
  let oid ← row.take 0 Cell.oid?
  let schema ← row.take 1 Cell.oid?
  let name ← row.take 2 Cell.text?
  let kind ← row.takeLetter 3 "relkind"
  return { oid, schema, name, kind }

/-- Reads a row of `pg_type`. -/
def toType (row : Row) : Except CellError Catalog.TypeRow := do
  let oid ← row.take 0 Cell.oid?
  let schema ← row.take 1 Cell.oid?
  let name ← row.take 2 Cell.text?
  let kind ← row.takeLetter 3 "typtype"
  let category ← row.takeLetter 4 "typcategory"
  let element ← row.take 5 Cell.oid?
  return { oid, schema, name, kind, category, element }

/-- Reads a row of `pg_attribute`. -/
def toAttribute (row : Row) : Except CellError Catalog.AttributeRow := do
  let relation ← row.take 0 Cell.oid?
  let name ← row.take 1 Cell.text?
  let number ← row.take 2 Cell.smallInt?
  let type ← row.take 3 Cell.oid?
  let notNull ← row.take 4 Cell.boolean?
  let dropped ← row.take 5 Cell.boolean?
  return { relation, name, number, type, notNull, dropped }

/-- Reads a row of `pg_description`. -/
def toDescription (row : Row) : Except CellError Catalog.DescriptionRow := do
  let object ← row.take 0 Cell.oid?
  let holder ← row.take 1 Cell.oid?
  let part ← row.take 2 Cell.integer?
  let text ← row.take 3 Cell.text?
  return { object, holder, part, text }

/-- Reads a row of `pg_constraint`. The two lists of columns are taken first. -/
def toConstraint (row : Row) : Except CellError Catalog.ConstraintRow := do
  let key ← row.take 5 Cell.smallIntsOrNone?
  let foreignKey ← row.take 7 Cell.smallIntsOrNone?
  let oid ← row.take 0 Cell.oid?
  let schema ← row.take 1 Cell.oid?
  let name ← row.take 2 Cell.text?
  let relation ← row.take 3 Cell.oid?
  let kind ← row.takeLetter 4 "contype"
  let foreignRelation ← row.take 6 Cell.oid?
  return { oid, schema, name, relation, kind, key, foreignRelation, foreignKey }

/-- Reads a row of `pg_proc`. -/
def toProcedure (row : Row) : Except CellError Catalog.ProcedureRow := do
  let oid ← row.take 0 Cell.oid?
  let name ← row.take 1 Cell.text?
  let schema ← row.take 2 Cell.oid?
  let kind ← row.takeLetter 3 "prokind"
  let argumentCount ← row.take 4 Cell.smallInt?
  let argumentTypes ← row.take 5 Cell.oids?
  let returnType ← row.take 6 Cell.oid?
  return { oid, name, schema, kind, argumentCount, argumentTypes, returnType }

/-- Reads a row of `pg_aggregate`. -/
def toAggregate (row : Row) : Except CellError Catalog.AggregateRow := do
  let procedure ← row.take 0 Cell.oid?
  let directArguments ← row.take 1 Cell.smallInt?
  return { procedure, directArguments }

end Row

end SchemaSurvey.Database
