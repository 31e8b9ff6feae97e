/-
  `AggregateRule` — which aggregates are listed, and with which return types.

  The rule is stated on the rows of the catalog, apart from the way a survey finds it. An aggregate
  reduces one type to another (`Snapshot.Reduces`): its row in `pg_proc` declares one argument, its
  row in `pg_aggregate` no direct ones, and both types are usable. Rows are joined by oid and shown
  by name, so several rows may reduce types of one name, from whatever schemas: the document lists
  the least of their return types.

  The survey finds each type and each `pg_aggregate` row through a map in which of two rows with one
  oid only the later is left, so the rule takes distinct oids in these two tables
  (`resolve_aggregate`). Oids of functions may repeat.
-/
import Mathlib.Data.String.Basic
import Mathlib.Order.Bounds.Defs
import SchemaSurvey.Catalog.Sample
import SchemaSurvey.Proofs.Survey.Closure
import SchemaSurvey.Proofs.Survey.ReturnTypes

namespace SchemaSurvey

open Catalog Survey

/-- What is listed for a name under an argument type. -/
def Document.Aggregates.find? (aggregates : Document.Aggregates) (type : TypeName) (name : String) :
    Option Document.Aggregate :=
  (aggregates.get? type).bind fun functions => functions.get? name

namespace Catalog.Snapshot

/-- The row `p` is an aggregate of this name that reduces one column to one value. -/
structure Reduces (s : Snapshot) (p : ProcedureRow) (type : TypeName) (name : String)
    (result : TypeName) : Prop where
  mem : p ∈ s.procedures
  name_eq : p.name = name
  kind_eq : p.kind = 'a'
  argumentCount_eq : p.argumentCount = 1
  direct : ∃ a ∈ s.aggregates, a.procedure = p.oid ∧ a.directArguments = 0
  argument : ∃ t ∈ s.types, p.argumentTypes = [t.oid] ∧ t.isUsable = true ∧ t.name = type
  result : ∃ t ∈ s.types, p.returnType = t.oid ∧ t.isUsable = true ∧ t.name = result

instance (s : Snapshot) (p : ProcedureRow) (type : TypeName) (name : String) (result : TypeName) :
    Decidable (s.Reduces p type name result) :=
  decidable_of_iff
    (p ∈ s.procedures ∧ p.name = name ∧ p.kind = 'a' ∧ p.argumentCount = 1 ∧
      (∃ a ∈ s.aggregates, a.procedure = p.oid ∧ a.directArguments = 0) ∧
      (∃ t ∈ s.types, p.argumentTypes = [t.oid] ∧ t.isUsable = true ∧ t.name = type) ∧
      ∃ t ∈ s.types, p.returnType = t.oid ∧ t.isUsable = true ∧ t.name = result)
    ⟨fun ⟨hmem, hname, hkind, hcount, hdirect, hargument, hresult⟩ =>
        ⟨hmem, hname, hkind, hcount, hdirect, hargument, hresult⟩,
      fun ⟨hmem, hname, hkind, hcount, hdirect, hargument, hresult⟩ =>
        ⟨hmem, hname, hkind, hcount, hdirect, hargument, hresult⟩⟩

end Catalog.Snapshot

namespace Survey

/-! ### Rows found by oid -/

/-- **Of types with distinct oids every usable one is found.** -/
theorem ScalarType.get?_ofRows {rows : List TypeRow} (htypes : (rows.map TypeRow.oid).Nodup)
    {oid : Oid} {type : ScalarType} :
    (ScalarType.ofRows rows).get? oid = some type ↔
      ∃ t ∈ rows, oid = t.oid ∧ t.isUsable = true ∧ type = ⟨t.oid, t.schema, t.name⟩ := by
  constructor
  · intro h
    obtain ⟨t, ht, rfl, husable, htype⟩ := ScalarType.row_of_get? h
    exact ⟨t, ht, rfl, husable, htype⟩
  · rintro ⟨t, ht, rfl, husable, rfl⟩
    refine (SortedMap.get?_ofList (SortedMap.consistent_map_filter htypes)).mpr ?_
    exact List.mem_map.mpr ⟨t, List.mem_filter.mpr ⟨ht, husable⟩, rfl⟩

theorem get?_directArguments {rows : List AggregateRow}
    (haggregates : (rows.map AggregateRow.procedure).Nodup) {oid : Oid} {count : Int16} :
    (SortedMap.ofList (rows.map fun a => (a.procedure, a.directArguments))).get? oid = some count ↔
      ∃ a ∈ rows, a.procedure = oid ∧ a.directArguments = count := by
  rw [SortedMap.get?_ofList (SortedMap.consistent_map haggregates), List.mem_map]
  simp only [Prod.mk.injEq]

theorem singleArgument?_eq_some_iff {p : ProcedureRow} {oid : Oid} :
    p.singleArgument? = some oid ↔ p.argumentCount = 1 ∧ p.argumentTypes = [oid] := by
  unfold ProcedureRow.singleArgument?
  split
  · rename_i argument hargument
    rw [hargument, List.cons.injEq, and_iff_left rfl]
    by_cases hcount : p.argumentCount = 1 <;> simp [hcount]
  · rename_i hother
    exact ⟨nofun, fun h => absurd h.2 (hother oid)⟩

/-! ### Rows that qualify -/

variable {s : Snapshot} {excluded : List String} {type result : TypeName} {name : String}

/-- **The signatures of the overloads are those of the rows that reduce.** -/
theorem mem_signatures (htypes : (s.types.map TypeRow.oid).Nodup)
    (haggregates : (s.aggregates.map AggregateRow.procedure).Nodup) :
    (type, name, result) ∈ (survey s excluded).overloads.map Overload.signature ↔
      ∃ p, s.Reduces p type name result := by
  rw [Overload.mem_map_signature]
  constructor
  · rintro ⟨o, ho, ⟨htype, hname⟩, hresult⟩
    obtain ⟨p, hp, hrow⟩ := Overload.mem_qualifying.mp ho
    obtain ⟨hkind, hdirect, oid, argument, returned, hsingle, hargument, hreturned, rfl⟩ :=
      Overload.ofRow?_eq_some_iff.mp hrow
    obtain ⟨hcount, harguments⟩ := singleArgument?_eq_some_iff.mp hsingle
    obtain ⟨t, ht, rfl, ht_usable, rfl⟩ := (ScalarType.get?_ofRows htypes).mp hargument
    obtain ⟨u, hu, hu_oid, hu_usable, rfl⟩ := (ScalarType.get?_ofRows htypes).mp hreturned
    exact ⟨p, hp, hname, beq_iff_eq.mp hkind, hcount, (get?_directArguments haggregates).mp hdirect,
      ⟨t, ht, harguments, ht_usable, htype⟩, ⟨u, hu, hu_oid, hu_usable, hresult⟩⟩
  · rintro ⟨p, h⟩
    obtain ⟨t, ht, harguments, ht_usable, htype⟩ := h.argument
    obtain ⟨u, hu, hu_oid, hu_usable, hresult⟩ := h.result
    refine ⟨⟨p.oid, p.name, p.schema, t.name, u.name⟩, ?_, ⟨htype, h.name_eq⟩, hresult⟩
    refine Overload.mem_qualifying.mpr ⟨p, h.mem, Overload.ofRow?_eq_some_iff.mpr ?_⟩
    exact ⟨beq_iff_eq.mpr h.kind_eq, (get?_directArguments haggregates).mpr h.direct,
      t.oid, ⟨t.oid, t.schema, t.name⟩, ⟨u.oid, u.schema, u.name⟩,
      singleArgument?_eq_some_iff.mpr ⟨h.argumentCount_eq, harguments⟩,
      (ScalarType.get?_ofRows htypes).mpr ⟨t, ht, rfl, ht_usable, rfl⟩,
      (ScalarType.get?_ofRows htypes).mpr ⟨u, hu, hu_oid, hu_usable, rfl⟩, rfl⟩

/-! ### Entries of the document -/

theorem isLE_compare_iff {x y : String} : (compare x y).isLE = true ↔ x ≤ y :=
  Ordering.isLE_iff_ne_gt.trans compare_le_iff_le

namespace AggregateCatalog

theorem find?_returnTypes (c : AggregateCatalog) (type : TypeName) (name : String) :
    c.returnTypes.find? type name = (c.find? type name).map fun o => ⟨o.returnType⟩ := by
  rw [Document.Aggregates.find?, returnTypes, find?, SortedMap.get?_map]
  cases c.get? type with
  | none => rfl
  | some byName => exact SortedMap.get?_map _ _ _

/-- **The return type listed is the least that occurs** with this argument type and name. -/
theorem find?_returnTypes_ofOverloads {l : List Overload} :
    (ofOverloads l).returnTypes.find? type name = some ⟨result⟩ ↔
      IsLeast {r | (type, name, r) ∈ l.map Overload.signature} result := by
  rw [find?_returnTypes, Option.map_eq_some_iff]
  constructor
  · rintro ⟨o, ho, hresult⟩
    obtain rfl : o.returnType = result := congrArg Document.Aggregate.returnType hresult
    have hleast := find?_ofOverloads.mp ho
    refine ⟨Overload.mem_map_signature.mpr ⟨o, hleast.mem, hleast.holds, rfl⟩, fun r hr => ?_⟩
    obtain ⟨p, hp, hrival, rfl⟩ := Overload.mem_map_signature.mp hr
    exact isLE_compare_iff.mp (isLE_returnType ho hp hrival)
  · rintro ⟨hmem, hleast⟩
    obtain ⟨p, hp, hrival, hp_result⟩ := Overload.mem_map_signature.mp hmem
    obtain ⟨o, ho⟩ := exists_find?_ofOverloads hp hrival
    -- What is listed is no greater than `result`, and it occurs, so it is no less either.
    have hle : o.returnType ≤ result := hp_result ▸ isLE_compare_iff.mp (isLE_returnType ho hp hrival)
    have ho_least := find?_ofOverloads.mp ho
    have hge : result ≤ o.returnType :=
      hleast (Overload.mem_map_signature.mpr ⟨o, ho_least.mem, ho_least.holds, rfl⟩)
    exact ⟨o, ho, congrArg Document.Aggregate.mk (le_antisymm hle hge)⟩

/-- Something is listed exactly where a signature occurs. -/
theorem exists_find?_returnTypes_ofOverloads {l : List Overload} :
    (∃ a, (ofOverloads l).returnTypes.find? type name = some a) ↔
      ∃ r, (type, name, r) ∈ l.map Overload.signature := by
  constructor
  · rintro ⟨a, ha⟩
    exact ⟨a.returnType, (find?_returnTypes_ofOverloads.mp ha).1⟩
  · rintro ⟨r, hr⟩
    obtain ⟨p, hp, hrival, -⟩ := Overload.mem_map_signature.mp hr
    obtain ⟨o, ho⟩ := exists_find?_ofOverloads hp hrival
    exact ⟨⟨o.returnType⟩, by rw [find?_returnTypes, ho, Option.map_some]⟩

end AggregateCatalog

end Survey

/-- **An aggregate is listed exactly when a row reduces the type,** and then with the least return
type, by code points, of all rows that do. -/
theorem resolve_aggregate (s : Snapshot) (excluded : List String)
    (htypes : (s.types.map TypeRow.oid).Nodup)
    (haggregates : (s.aggregates.map AggregateRow.procedure).Nodup) (type : TypeName)
    (name : String) :
    ((∃ a, (s.resolve excluded).aggregates.find? type name = some a) ↔
      ∃ p result, s.Reduces p type name result) ∧
    ∀ result, (s.resolve excluded).aggregates.find? type name = some ⟨result⟩ ↔
      IsLeast {r | ∃ p, s.Reduces p type name r} result := by
  have hsignatures : ∀ r, (type, name, r) ∈ (survey s excluded).overloads.map Overload.signature ↔
      ∃ p, s.Reduces p type name r := fun r => Survey.mem_signatures htypes haggregates
  have hlisted : (s.resolve excluded).aggregates =
      (Survey.AggregateCatalog.ofOverloads (survey s excluded).overloads).returnTypes := rfl
  rw [hlisted]
  refine ⟨?_, fun result => ?_⟩
  · rw [Survey.AggregateCatalog.exists_find?_returnTypes_ofOverloads, exists_comm]
    exact exists_congr hsignatures
  · rw [Survey.AggregateCatalog.find?_returnTypes_ofOverloads]
    simp only [hsignatures]

open Catalog.Sample.Oids in
/-- Totals of `int4`, of a domain that is also named `int4`, and of any array, and a median of `int4`
that takes its percentile directly. -/
def totals : Snapshot :=
  let types := Snapshot.stock.types ++ [⟨16460, sales, "int4", 'd', 'N', 0⟩]
  let b : Sample := { snapshot := { Snapshot.stock with types } }
  let b := b.aggregate "total" [int4] numeric 0
  let b := b.aggregate "total" [16460] int8 0
  let b := b.aggregate "total" [anyArray] anyElement 0
  (b.aggregate "median" [int4] float8 1).snapshot

/-- The total of the domain gives `int8`, which comes before `numeric`. -/
theorem resolve_totals :
    (totals.types.map TypeRow.oid).Nodup ∧ (totals.aggregates.map AggregateRow.procedure).Nodup ∧
      (totals.resolve Sample.excluded).aggregates.find? "int4" "total" = some ⟨"int8"⟩ ∧
      (totals.resolve Sample.excluded).aggregates.find? "int4" "median" = none := by
  have htypes : (totals.types.map TypeRow.oid).Nodup := by decide
  have haggregates : (totals.aggregates.map AggregateRow.procedure).Nodup := by decide
  obtain ⟨-, htotal⟩ :=
    resolve_aggregate totals Sample.excluded htypes haggregates "int4" "total"
  obtain ⟨hmedian, -⟩ :=
    resolve_aggregate totals Sample.excluded htypes haggregates "int4" "median"
  refine ⟨htypes, haggregates, (htotal "int8").mpr ⟨?_, ?_⟩, ?_⟩
  · exact ⟨⟨60002, "total", Sample.Oids.pgCatalog, 'a', 1, [16460], Sample.Oids.int8⟩, by decide⟩
  · rintro r ⟨p, hp⟩
    obtain ⟨t, ht, -, -, rfl⟩ := hp.result
    have hleast : ∀ p ∈ totals.procedures, ∀ t ∈ totals.types,
        totals.Reduces p "int4" "total" t.name → ¬ t.name < "int8" := by decide
    exact not_lt.mp (hleast p hp.mem t ht hp)
  · have hnone : ∀ p ∈ totals.procedures, ∀ t ∈ totals.types,
        ¬ totals.Reduces p "int4" "median" t.name := by decide
    refine Option.eq_none_iff_forall_ne_some.mpr fun a ha => ?_
    obtain ⟨p, r, hp⟩ := hmedian.mp ⟨a, ha⟩
    obtain ⟨t, ht, -, -, rfl⟩ := hp.result
    exact hnone p hp.mem t ht hp

end SchemaSurvey
