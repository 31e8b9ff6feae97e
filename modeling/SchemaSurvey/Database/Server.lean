/-
  `Server` — what a database is asked, and what it may answer.

  A server is the record of its answers, one for each thing it can be asked in the course of a load:
  to open the connection, to start the transaction, to select from each table and to roll back. It
  may refuse any of them, or close the connection instead of answering.
-/
import SchemaSurvey.Catalog.SystemTable
import SchemaSurvey.Database.Cell

namespace SchemaSurvey.Database

/-- A statement sent to a server. -/
inductive Statement where
  /-- Starts a transaction that sees one state of the database and changes nothing. -/
  | start
  | select (table : Catalog.SystemTable)
  | rollback
deriving DecidableEq

/-- The statement in SQL. -/
def Statement.sql : Statement → String
  | start => "START TRANSACTION ISOLATION LEVEL REPEATABLE READ, READ ONLY"
  | select table => table.select
  | rollback => "ROLLBACK"

/-- An answer that is none. -/
inductive Refusal where
  /-- The server reports an error, by its state code. -/
  | error (state : String)
  /-- The server closes the connection. -/
  | hangUp
deriving DecidableEq

/-- The failure to report. -/
def Refusal.toFailure : Refusal → Failure
  | error state => ⟨.catalog, "sqlstate_" ++ state, "db error"⟩
  | hangUp => ⟨.catalog, "catalog_unavailable", "connection closed"⟩

/-- A server's answer to a request. -/
abbrev Reply (α : Type) := Except Refusal α

/-- A server, by its answers. -/
structure Server where
  /-- To a request for a connection. -/
  greeting : Reply Unit := .ok ()
  /-- To the start of the transaction. -/
  start : Reply Unit := .ok ()
  /-- To each query, with its rows in order. -/
  select : Catalog.SystemTable → Reply (List Row) := fun _ => .ok []
  /-- To the end of the transaction. -/
  rollback : Reply Unit := .ok ()

end SchemaSurvey.Database
