/-
  `FailureKind` — what the kind of a failed load tells.

  A load fails because the server refuses a statement, or because it delivers a row that cannot be
  read. A refusal is always reported as a failure of the catalog's store. Of a row that cannot be
  read the first cell that does not decode is reported (`Decoding`), and that cell alone settles the
  kind (`load_failureKind`): an empty text in the place of a letter is reported as undecodable, while
  every other cell, one that holds nothing or a value of another kind, is reported as if the store
  had failed. `unnamed` is a server that refuses nothing and seems to have failed.
-/
import SchemaSurvey.Proofs.Database.AllOrNothing
import SchemaSurvey.Proofs.Database.Decoding

namespace SchemaSurvey.Database

open Catalog (SystemTable)

/-- The statement is refused. -/
def Server.Refuses (server : Server) (r : Refusal) : Statement → Prop
  | .start => server.start = .error r
  | .select table => server.select table = .error r
  | .rollback => server.rollback = .error r

/-! ### One cause -/

theorem Refusal.kind_toFailure (r : Refusal) : r.toFailure.kind = .catalog := by cases r <;> rfl

theorem Row.kind_faultAt (row : Row) (table : SystemTable) (i : Nat) :
    (row.faultAt table i).toFailure.kind =
      if row.lacksLetter table i then .decode else .catalog := by
  rw [faultAt]
  split <;> rfl

/-- A step that is refused fails with the refusal. -/
theorem Server.Fails.eq_refused {server : Server} {step : Statement} {e : LoadError} {r : Refusal}
    (h : server.Fails step e) (hr : server.Refuses r step) : e = .refused r := by
  refine h.unique ?_
  cases step with
  | start => exact .start hr
  | select table => exact .query hr
  | rollback => exact .rollback hr

/-- A query that is answered fails at the first cell, in the first row, that does not decode. -/
theorem Server.Fails.exists_fault {server : Server} {table : SystemTable} {e : LoadError}
    {rows : List Row} (h : server.Fails (.select table) e)
    (hrows : server.select table = .ok rows) :
    ∃ before row after i, rows = before ++ row :: after ∧
      (∀ b ∈ before, b.firstFault? table = none) ∧ row.firstFault? table = some i ∧
      e = .undecodable (row.faultAt table i) := by
  cases h with
  | query h =>
    rw [h] at hrows
    cases hrows
  | @row _ before after row _ h hbefore hrow =>
    rw [h] at hrows
    obtain ⟨i, hi, rfl⟩ := Row.check_eq_error_iff.mp hrow
    exact ⟨before, row, after, i, (Except.ok.inj hrows).symm,
      fun b hb => Row.check_eq_ok_iff.mp (hbefore b hb), hi, rfl⟩

/-! ### One load -/

/-- **What the kind of a failed load tells.** If the step that failed was refused, the failure is
one of the catalog's store. If it was answered with rows, the failure is the one of the first cell
in them that does not decode. It is of the kind for undecodable data if that cell lacks a letter,
and otherwise one of the catalog's store again. -/
theorem load_failureKind (server : Server) (e : LoadError) (h : server.load.outcome = .error e) :
    ∃ done step, server.StopsAt loadSteps done step e ∧
      (∀ r, server.Refuses r step →
        e.toFailure = r.toFailure ∧ e.toFailure.isCatalogFailure = true) ∧
      ∀ table rows, step = .select table → server.select table = .ok rows →
        ∃ before row after i, rows = before ++ row :: after ∧
          (∀ b ∈ before, b.firstFault? table = none) ∧ row.firstFault? table = some i ∧
          (e.toFailure.kind = .decode ↔ row.lacksLetter table i = true) ∧
          (e.toFailure.isCatalogFailure = true ↔ row.lacksLetter table i = false) := by
  obtain ⟨done, step, hstop⟩ := Server.outcome_load_eq_error_iff.mp h
  refine ⟨done, step, hstop, fun r hr => ?_, fun table rows hstep hrows => ?_⟩
  · obtain rfl := hstop.fails.eq_refused hr
    refine ⟨rfl, ?_⟩
    rw [Failure.isCatalogFailure, beq_iff_eq]
    exact r.kind_toFailure
  · subst hstep
    obtain ⟨before, row, after, i, hsplit, hbefore, hi, rfl⟩ := hstop.fails.exists_fault hrows
    refine ⟨before, row, after, i, hsplit, hbefore, hi, ?_⟩
    have hkind : (LoadError.undecodable (row.faultAt table i)).toFailure.kind =
        if row.lacksLetter table i then .decode else .catalog := row.kind_faultAt table i
    rw [Failure.isCatalogFailure, beq_iff_eq, hkind]
    cases row.lacksLetter table i <;> decide

/-- A row of `pg_type` about a type without a category; the element type is missing as well. -/
def uncategorized : Row := [.oid 23, .oid 11, .text "int4", .text "b", .text "", .null]

/-- A server that has such a type. -/
def careless : Server where
  select
    | .types => .ok [uncategorized]
    | _ => .ok []

/-- The category is reported, which stands before the element type. -/
theorem load_careless :
    careless.load.outcome = .error (.undecodable (.noLetter "typcategory")) ∧
      uncategorized.firstFault? .types = some 4 ∧
      (LoadError.undecodable (.noLetter "typcategory")).toFailure.kind = .decode := by
  have h : careless.load.outcome = .error (.undecodable (.noLetter "typcategory")) := rfl
  have hpasses : ∀ p ∈ [Statement.start, .select .namespaces, .select .classes],
      careless.Passes p :=
    List.forall_mem_cons.mpr ⟨rfl, List.forall_mem_cons.mpr
      ⟨⟨[], rfl, nofun⟩, List.forall_mem_singleton.mpr ⟨[], rfl, nofun⟩⟩⟩
  have hrows : careless.select .types = .ok ([] ++ uncategorized :: []) := rfl
  have hstop : careless.StopsAt loadSteps [.start, .select .namespaces, .select .classes]
      (.select .types) (.undecodable (.noLetter "typcategory")) :=
    ⟨⟨_, rfl⟩, hpasses, .row hrows nofun rfl⟩
  obtain ⟨done, step, hstop', -, hanswered⟩ := load_failureKind careless _ h
  obtain ⟨-, rfl, -⟩ := hstop.unique hstop'
  obtain ⟨before, row, after, i, hsplit, -, hi, hdecode, -⟩ := hanswered .types _ rfl hrows
  obtain ⟨rfl, rfl, rfl⟩ : before = [] ∧ row = uncategorized ∧ after = [] := by
    simpa [List.append_eq_cons_iff, and_comm, eq_comm] using hsplit
  have hfault : uncategorized.firstFault? .types = some 4 := by decide
  rw [hfault] at hi
  obtain rfl := Option.some.inj hi
  exact ⟨h, hfault, hdecode.mpr (by decide)⟩

/-- A row of `pg_class` about a relation without a name. -/
def unnamedRelation : Row := [.oid 1, .oid 2200, .null, .text "r"]

/-- A server that refuses nothing, and has a relation without a name. -/
def unnamed : Server where
  select
    | .classes => .ok [unnamedRelation]
    | _ => .ok []

/-- Its rows are delivered and one of them does not decode, and yet the failure reported is one of
the catalog's store. -/
theorem load_unnamed :
    unnamed.select .classes = .ok [unnamedRelation] ∧
      unnamedRelation.decodes .classes 2 = false ∧
      ∃ e, unnamed.StopsAt loadSteps [.start, .select .namespaces] (.select .classes) e ∧
        unnamed.load.outcome = .error e ∧ e.toFailure.kind ≠ .decode ∧
        e.toFailure.isCatalogFailure = true := by
  have hpasses : ∀ p ∈ [Statement.start, .select .namespaces], unnamed.Passes p :=
    List.forall_mem_cons.mpr ⟨rfl, List.forall_mem_singleton.mpr ⟨[], rfl, nofun⟩⟩
  have hrows : unnamed.select .classes = .ok ([] ++ unnamedRelation :: []) := rfl
  have hstop : unnamed.StopsAt loadSteps [.start, .select .namespaces] (.select .classes)
      (.undecodable (.unreadable 2)) := ⟨⟨_, rfl⟩, hpasses, .row hrows nofun rfl⟩
  exact ⟨rfl, by decide, _, hstop, rfl, by decide, by decide⟩

end SchemaSurvey.Database
