/-
  `Closure` — the document refers to nothing outside itself.

  Whatever the catalog holds, also with repeated oids, dangling references and repeated names, the
  document that comes out is closed (`Document.Closed`): tables and columns carry the names they are
  stored under, keys list columns of their own table, foreign keys point at tables and columns that
  are there, and every type named is a usable type of the catalog (`resolve_closed`).

  Constraints are resolved by oid and shown by name. The two agree because an exposed relation is
  the only one of its name (`Survey.get?_tables`).
-/
import SchemaSurvey.Proofs.Survey.Tables

namespace SchemaSurvey

open Catalog

/-! ### Closed documents -/

/-- A usable type of the catalog has this name. -/
def Catalog.UsableName (types : List TypeRow) (name : TypeName) : Prop :=
  ∃ t ∈ types, t.isUsable = true ∧ t.name = name

namespace Document

/-- A table refers to its own columns, to tables of the document, and to usable types. -/
structure Table.Closed (types : List TypeRow) (tables : Tables) (t : Table) : Prop where
  hasColumn : t.columns.isEmpty = false
  columnName : ∀ name c, t.columns.get? name = some c → c.name = name
  columnType : ∀ name c, t.columns.get? name = some c → UsableName types c.type
  uniqueness : ∀ name columns, t.uniqueness.get? name = some columns →
    ∀ column ∈ columns, t.columns.contains column = true
  foreignKeys : ∀ name f, t.foreignKeys.get? name = some f →
    ∃ u, tables.get? f.table = some u ∧ ∀ column referenced,
      f.columns.get? column = some referenced →
        t.columns.contains column = true ∧ u.columns.contains referenced = true

end Document

/-- A document refers to nothing outside itself but to usable types. -/
structure Document.Closed (types : List TypeRow) (d : Document) : Prop where
  tableName : ∀ name t, d.tables.get? name = some t → t.name = name
  table : ∀ name t, d.tables.get? name = some t → t.Closed types d.tables
  hasAggregate : ∀ type functions, d.aggregates.get? type = some functions →
    functions.isEmpty = false
  argumentType : ∀ type functions, d.aggregates.get? type = some functions →
    UsableName types type
  returnType : ∀ type functions name a, d.aggregates.get? type = some functions →
    functions.get? name = some a → UsableName types a.returnType

/-! ### Types -/

namespace Survey

theorem usableName_of_get? {rows : List TypeRow} {oid : Oid} {t : ScalarType}
    (h : (ScalarType.ofRows rows).get? oid = some t) : UsableName rows t.name := by
  obtain ⟨row, hrow, -, husable, rfl⟩ := ScalarType.row_of_get? h
  exact ⟨row, hrow, husable, rfl⟩

/-- The types of a qualifying aggregate are usable. -/
theorem usableName_of_mem_qualifying {procedures : List ProcedureRow}
    {aggregates : List AggregateRow} {rows : List TypeRow} {o : Overload}
    (h : o ∈ Overload.qualifying procedures aggregates (ScalarType.ofRows rows)) :
    UsableName rows o.argumentType ∧ UsableName rows o.returnType := by
  obtain ⟨p, -, hp⟩ := Overload.mem_qualifying.mp h
  obtain ⟨-, -, oid, argument, result, -, hargument, hresult, rfl⟩ :=
    Overload.ofRow?_eq_some_iff.mp hp
  exact ⟨usableName_of_get? hargument, usableName_of_get? hresult⟩

/-! ### Tables -/

variable {s : Snapshot} {excluded : List String} {t : Document.Table} {r : Relation}
  {schema : Schema} {cs : List Survey.Column}

/-- Each column of an exposed relation comes from a live row of usable type. -/
theorem row_of_mem_columns {oid : Oid} (h : (survey s excluded).columns.get? oid = some cs)
    {c : Survey.Column} (hc : c ∈ cs) :
    ∃ a ∈ liveRows s.attributes oid, Column.ofRow? (ScalarType.ofRows s.types) a = some c :=
  (Exposure.mem_of_columns?_ofRows (get?_columns.mp h).2).mp hc

/-- An exposed relation has a column. -/
theorem exists_mem_columns {oid : Oid} (h : (survey s excluded).columns.get? oid = some cs) :
    ∃ c, c ∈ cs := by
  obtain ⟨hne, hall, hcs⟩ := Exposure.columns?_ofRows.mp (get?_columns.mp h).2
  obtain ⟨a, ha⟩ := List.exists_mem_of_ne_nil _ hne
  have hsome := hall a ha
  rw [← Column.ofRow?_isSome] at hsome
  obtain ⟨c, hc⟩ := Option.isSome_iff_exists.mp hsome
  exact ⟨c, (Exposure.mem_of_columns?_ofRows (get?_columns.mp h).2).mpr ⟨a, ha, hc⟩⟩

theorem contains_of_mem_names? (h : (survey s excluded).Shows t r schema cs) {oid : Oid}
    (hoid : oid = r.oid) {numbers : List Int16} {names : List String}
    (hnames : (survey s excluded).columns.names? oid numbers = some names) {name : String}
    (hname : name ∈ names) : t.columns.contains name = true := by
  subst hoid
  obtain ⟨cs', hcs', c, hc, hcname⟩ := Columns.column_of_mem_names? hnames hname
  obtain rfl : cs = cs' := Option.some.inj (h.columns_eq.symm.trans hcs')
  exact h.contains_columns.mpr ⟨c, hc, hcname⟩

/-- A foreign key of an exposed relation points at the table of an exposed relation. -/
theorem exists_foreignTable (h : (survey s excluded).Shows t r schema cs) {name : String}
    {f : Document.ForeignKey} (hf : t.foreignKeys.get? name = some f) :
    ∃ u, (survey s excluded).tables.get? f.table = some u ∧ ∀ column referenced,
      f.columns.get? column = some referenced →
        t.columns.contains column = true ∧ u.columns.contains referenced = true := by
  rw [h.table_eq] at hf
  obtain ⟨k, hk, hrelation, -, r', hr', rfl⟩ := foreignKey_of_get?_foreignKeysOf hf
  obtain ⟨c, -, hc⟩ := mem_foreignKeys.mp hk
  obtain ⟨-, -, hexposed, -, names, foreignNames, hnames, hforeignNames, rfl⟩ :=
    Resolution.ofRow_eq_foreign_iff.mp hc
  -- The constraint names its foreign relation by oid, and the key names it by its bare name. The
  -- relation of that oid is exposed, and it is the one whose table stands under the name.
  obtain ⟨cs', hcs'⟩ := SortedMap.contains_iff.mp hexposed
  obtain ⟨u, r'', schema', hoid, hshows, -⟩ := exists_shows hcs'
  obtain rfl : r'' = r' := by
    have hr'' := hshows.relation_eq
    rw [hoid, hr'] at hr''
    exact (Option.some.inj hr'').symm
  refine ⟨u, get?_tables.mpr ⟨by rw [hshows.table_eq]; rfl, r'', schema', cs', hshows⟩, ?_⟩
  intro column referenced hentry
  have hmem := SortedMap.mem_of_get?_ofList hentry
  obtain ⟨hcolumn, hreferenced⟩ := List.of_mem_zip hmem
  exact ⟨contains_of_mem_names? h hrelation hnames hcolumn,
    contains_of_mem_names? hshows hoid.symm hforeignNames hreferenced⟩

theorem Shows.closed (h : (survey s excluded).Shows t r schema cs) :
    t.Closed s.types (survey s excluded).tables where
  hasColumn := by
    obtain ⟨c, hc⟩ := exists_mem_columns h.columns_eq
    exact SortedMap.isEmpty_eq_false_iff.mpr ⟨c.name, h.contains_columns.mpr ⟨c, hc, rfl⟩⟩
  columnName name c hc := by
    obtain ⟨d, -, hname, rfl⟩ := h.column_of_get? hc
    exact hname
  columnType name c hc := by
    obtain ⟨d, hd, -, rfl⟩ := h.column_of_get? hc
    obtain ⟨a, -, ha⟩ := row_of_mem_columns h.columns_eq hd
    obtain ⟨type, htype, heq⟩ := Column.type_of_ofRow? ha
    change UsableName s.types d.type
    rw [heq]
    exact usableName_of_get? htype
  uniqueness name columns hcolumns column hcolumn := by
    rw [h.table_eq] at hcolumns
    obtain ⟨u, hu, hrelation, -, rfl⟩ := uniqueness_of_get?_uniquenessOf hcolumns
    obtain ⟨c, -, hc⟩ := mem_uniqueness.mp hu
    obtain ⟨-, -, names, hnames, rfl⟩ := Resolution.ofRow_eq_unique_iff.mp hc
    exact contains_of_mem_names? h hrelation hnames hcolumn
  foreignKeys _ _ hf := exists_foreignTable h hf

/-! ### Aggregates -/

theorem overloads_of_get?_aggregates {type : TypeName}
    {functions : SortedMap String Document.Aggregate}
    (h : (survey s excluded).document.aggregates.get? type = some functions) :
    ∃ byName, (survey s excluded).aggregates.get? type = some byName ∧
      functions = byName.map fun _ o => { returnType := o.returnType } := by
  rw [document, SortedMap.get?_map] at h
  obtain ⟨byName, hbyName, rfl⟩ := Option.map_eq_some_iff.mp h
  exact ⟨byName, hbyName, rfl⟩

theorem find?_overloads {type : TypeName} {byName : SortedMap String Overload}
    (h : (survey s excluded).aggregates.get? type = some byName) (name : String) :
    AggregateCatalog.find? (.ofOverloads (survey s excluded).overloads) type name =
      byName.get? name := by
  change ((survey s excluded).aggregates.get? type).bind _ = _
  rw [h, Option.bind_some]

/-- An argument type is listed for the sake of a qualifying aggregate, which is listed under it. -/
theorem exists_overload {type : TypeName} {byName : SortedMap String Overload}
    (h : (survey s excluded).aggregates.get? type = some byName) :
    ∃ o ∈ (survey s excluded).overloads, o.argumentType = type ∧
      byName.contains o.name = true := by
  -- Some overload has the argument type; the one chosen under its name need not be the same.
  obtain ⟨o, ho, htype⟩ :=
    AggregateCatalog.contains_ofOverloads.mp (SortedMap.contains_of_get? h)
  refine ⟨o, ho, htype, ?_⟩
  have hchoice :=
    AggregateCatalog.isChoice_find? (survey s excluded).overloads type o.name
  rw [find?_overloads h] at hchoice
  cases hget : byName.get? o.name with
  | none =>
    rw [hget] at hchoice
    exact absurd ⟨htype, rfl⟩ (hchoice o ho)
  | some p => exact SortedMap.contains_of_get? hget

end Survey

/-- **The document is closed,** whatever the catalog holds. -/
theorem resolve_closed (s : Snapshot) (excluded : List String) :
    (s.resolve excluded).Closed s.types where
  tableName _ _ ht := (Survey.get?_tables.mp ht).1
  table _ _ ht := by
    obtain ⟨-, r, schema, cs, hshows⟩ := Survey.get?_tables.mp ht
    exact hshows.closed
  hasAggregate type functions h := by
    obtain ⟨byName, hbyName, rfl⟩ := Survey.overloads_of_get?_aggregates h
    obtain ⟨o, -, -, hname⟩ := Survey.exists_overload hbyName
    refine SortedMap.isEmpty_eq_false_iff.mpr ⟨o.name, ?_⟩
    rw [SortedMap.contains_map]
    exact hname
  argumentType type functions h := by
    obtain ⟨byName, hbyName, -⟩ := Survey.overloads_of_get?_aggregates h
    obtain ⟨o, ho, rfl, -⟩ := Survey.exists_overload hbyName
    exact (Survey.usableName_of_mem_qualifying ho).1
  returnType type functions name a h ha := by
    obtain ⟨byName, hbyName, rfl⟩ := Survey.overloads_of_get?_aggregates h
    rw [SortedMap.get?_map] at ha
    obtain ⟨o, ho, rfl⟩ := Option.map_eq_some_iff.mp ha
    have hfind := (Survey.find?_overloads hbyName name).trans ho
    have hmem := (Survey.AggregateCatalog.find?_ofOverloads.mp hfind).mem
    exact (Survey.usableName_of_mem_qualifying hmem).2

end SchemaSurvey
