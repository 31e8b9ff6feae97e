/-
  `TypeCatalog` — which scalar types a configuration lists, and what it lists under each.

  Types come from three places of different shape: columns of tables, columns and arguments of
  native queries, and argument types of aggregate functions. A type is listed exactly when one of
  them has it (`mem_occurringTypes`). Under each type stand the functions that aggregate it with
  their return types (`get?_aggregatesOver`), so the entries of the whole catalog are those of the
  aggregate functions, each once (`mem_entries_scalarTypes`, `SortedMap.nodup_entries`).

  `scalarTypes_faithful` is the result. After a refresh only the native queries are still the
  user's, so nothing is listed for the sake of a table or an aggregate function that is gone.
-/
import SchemaSurvey.Configuration.Refresh
import SchemaSurvey.Configuration.ScalarTypes
import SchemaSurvey.Proofs.SortedMap.Building

namespace SchemaSurvey

/-! ### Maps of maps -/

namespace SortedMap

variable {κ ι ν : Type} [Ord κ] [Ord ι] [Std.LawfulEqOrd κ] [Std.LawfulEqOrd ι]

omit [Std.LawfulEqOrd κ] [Std.LawfulEqOrd ι] in
/-- The entries of the inner maps, each with both keys. -/
def entries (m : SortedMap κ (SortedMap ι ν)) : List (κ × ι × ν) :=
  m.toList.flatMap fun outer => outer.2.toList.map fun inner => (outer.1, inner)

theorem mem_entries {m : SortedMap κ (SortedMap ι ν)} {k : κ} {i : ι} {v : ν} :
    (k, i, v) ∈ m.entries ↔ ∃ inner, m.get? k = some inner ∧ inner.get? i = some v := by
  rw [entries, List.mem_flatMap]
  constructor
  · rintro ⟨⟨k', inner⟩, houter, hinner⟩
    obtain ⟨⟨i', v'⟩, hentry, heq⟩ := List.mem_map.mp hinner
    obtain ⟨rfl, rfl, rfl⟩ : k' = k ∧ i' = i ∧ v' = v := by simpa using heq
    exact ⟨inner, mem_toList_iff.mp houter, mem_toList_iff.mp hentry⟩
  · rintro ⟨inner, houter, hinner⟩
    exact ⟨(k, inner), mem_toList_iff.mpr houter,
      List.mem_map.mpr ⟨(i, v), mem_toList_iff.mpr hinner, rfl⟩⟩

/-- **No entry is listed twice.** -/
theorem nodup_entries (m : SortedMap κ (SortedMap ι ν)) : m.entries.Nodup := by
  refine List.nodup_flatMap.mpr ⟨fun outer _ => ?_, m.sorted.imp fun {a b} hlt => ?_⟩
  · have hinner : (outer.2.toList.map Prod.fst).Nodup := nodup_keys outer.2
    exact (List.Nodup.of_map Prod.fst hinner).map fun _ _ heq => (Prod.mk.inj heq).2
  · -- Entries of different inner maps differ in their first key.
    refine List.disjoint_left.mpr fun entry ha hb => ne_of_compare_eq_lt hlt ?_
    obtain ⟨_, -, rfl⟩ := List.mem_map.mp ha
    obtain ⟨_, -, heq⟩ := List.mem_map.mp hb
    exact (congrArg Prod.fst heq).symm

end SortedMap

namespace Configuration

/-! ### Where types come from -/

/-- A column of one of the tables has the type. -/
def TableType (tables : Document.Tables) (type : TypeName) : Prop :=
  ∃ tableName table columnName column, tables.get? tableName = some table ∧
    table.columns.get? columnName = some column ∧ column.type = type

/-- A column or an argument of one of the queries has the type. -/
def QueryType (queries : SortedMap String NativeQuery) (type : TypeName) : Prop :=
  ∃ queryName query name column, queries.get? queryName = some query ∧
    (query.columns.get? name = some column ∨ query.arguments.get? name = some column) ∧
    column.type = type

/-- The type is that of a column of a table, of a column or argument of a native query, or of the
argument of an aggregate function. -/
def Uses (c : Configuration) (type : TypeName) : Prop :=
  TableType c.metadata.tables type ∨ QueryType c.metadata.nativeQueries type ∨
    c.aggregates.contains type = true

variable {c : Configuration} {type : TypeName}

theorem mem_tableTypes : type ∈ c.tableTypes ↔ TableType c.metadata.tables type := by
  simp only [tableTypes, List.mem_flatMap, List.mem_map, SortedMap.mem_values, TableType]
  constructor
  · rintro ⟨table, ⟨tableName, htable⟩, column, ⟨columnName, hcolumn⟩, htype⟩
    exact ⟨tableName, table, columnName, column, htable, hcolumn, htype⟩
  · rintro ⟨tableName, table, columnName, column, htable, hcolumn, htype⟩
    exact ⟨table, ⟨tableName, htable⟩, column, ⟨columnName, hcolumn⟩, htype⟩

theorem mem_nativeQueryTypes :
    type ∈ c.nativeQueryTypes ↔ QueryType c.metadata.nativeQueries type := by
  simp only [nativeQueryTypes, List.mem_flatMap, List.mem_map, List.mem_append,
    SortedMap.mem_values, ← exists_or, QueryType]
  constructor
  · rintro ⟨query, ⟨queryName, hquery⟩, column, ⟨name, hcolumn⟩, htype⟩
    exact ⟨queryName, query, name, column, hquery, hcolumn, htype⟩
  · rintro ⟨queryName, query, name, column, hquery, hcolumn, htype⟩
    exact ⟨query, ⟨queryName, hquery⟩, column, ⟨name, hcolumn⟩, htype⟩

/-- **A type is listed if it is used,** and only then. -/
theorem mem_occurringTypes : type ∈ c.occurringTypes ↔ c.Uses type := by
  rw [occurringTypes, SortedMap.mem_keys, SortedMap.contains_ofList, Uses, ← mem_tableTypes,
    ← mem_nativeQueryTypes, ← SortedMap.mem_keys]
  simp

/-! ### What stands under a type -/

theorem get?_aggregatesOver {name : String} {result : TypeName} :
    (c.aggregatesOver type).get? name = some result ↔
      ∃ functions function, c.aggregates.get? type = some functions ∧
        functions.get? name = some function ∧ function.returnType = result := by
  rw [aggregatesOver, SortedMap.get?_map]
  cases c.aggregates.get? type with
  | none => simp [EmptyCollection.emptyCollection]
  | some functions => simp

/-- The catalog has the types in use as its keys, and under each what can be aggregated. -/
theorem scalarTypes_eq_map (c : Configuration) :
    c.scalarTypes =
      (SortedMap.ofList <| (c.tableTypes ++ c.nativeQueryTypes ++ c.aggregates.keys).map
        fun type => (type, ())).map fun type _ => c.aggregatesOver type :=
  SortedMap.ofList_map_keys _ _

theorem keys_scalarTypes (c : Configuration) : c.scalarTypes.keys = c.occurringTypes := by
  rw [scalarTypes_eq_map, occurringTypes, SortedMap.keys, SortedMap.map, List.map_map]
  rfl

theorem get?_scalarTypes {functions : SortedMap String TypeName} :
    c.scalarTypes.get? type = some functions ↔
      c.Uses type ∧ functions = c.aggregatesOver type := by
  rw [← mem_occurringTypes, occurringTypes, SortedMap.mem_keys, SortedMap.contains_iff,
    scalarTypes_eq_map, SortedMap.get?_map, Option.map_eq_some_iff]
  constructor
  · rintro ⟨mark, hmark, rfl⟩
    exact ⟨⟨mark, hmark⟩, rfl⟩
  · rintro ⟨⟨mark, hmark⟩, rfl⟩
    exact ⟨mark, hmark, rfl⟩

/-- **Nothing is lost and nothing invented:** a type that has a function is listed, and under it
stand its own functions only. -/
theorem mem_entries_scalarTypes {name : String} {result : TypeName} :
    (type, name, result) ∈ c.scalarTypes.entries ↔
      ∃ functions function, c.aggregates.get? type = some functions ∧
        functions.get? name = some function ∧ function.returnType = result := by
  rw [SortedMap.mem_entries, ← get?_aggregatesOver]
  constructor
  · rintro ⟨functions, hlisted, hget⟩
    rwa [← (get?_scalarTypes.mp hlisted).2]
  · intro hget
    obtain ⟨functions, -, hfunctions, -, -⟩ := get?_aggregatesOver.mp hget
    have huses : c.Uses type := Or.inr (Or.inr (SortedMap.contains_of_get? hfunctions))
    exact ⟨_, get?_scalarTypes.mpr ⟨huses, rfl⟩, hget⟩

/-! ### The catalog -/

/-- **The catalog of scalar types is complete and faithful.** Its keys are the types in use. Under
each stand the functions that aggregate it, none if there are none, and so the entries of the whole
are those of the aggregate functions, each once. After a refresh the types in use are those of the
tables and functions that were found and of the native queries, whatever tables and functions there
were before. -/
theorem scalarTypes_faithful :
    (∀ c : Configuration,
      c.scalarTypes.keys = c.occurringTypes ∧
      (∀ type, type ∈ c.occurringTypes ↔ c.Uses type) ∧
      (∀ type functions, c.scalarTypes.get? type = some functions ↔
        c.Uses type ∧ functions =
          match c.aggregates.get? type with
          | some aggregates => aggregates.map fun _ aggregate => aggregate.returnType
          | none => ∅) ∧
      c.scalarTypes.entries.Nodup ∧
      ∀ type name result, (type, name, result) ∈ c.scalarTypes.entries ↔
        ∃ functions function, c.aggregates.get? type = some functions ∧
          functions.get? name = some function ∧ function.returnType = result) ∧
    ∀ (c : Configuration) (s : Catalog.Snapshot),
      (∀ type, type ∈ (c.refresh s).scalarTypes.keys ↔
        TableType (s.resolve c.excluded).tables type ∨
          QueryType c.metadata.nativeQueries type ∨
          (s.resolve c.excluded).aggregates.contains type = true) ∧
      ∀ tables aggregates,
        ({ c with metadata := { c.metadata with tables }, aggregates }.refresh s).scalarTypes =
          (c.refresh s).scalarTypes := by
  refine ⟨fun c => ⟨keys_scalarTypes c, fun type => mem_occurringTypes, fun type functions => ?_,
    SortedMap.nodup_entries _, fun type name result => mem_entries_scalarTypes⟩,
    fun c s => ⟨fun type => ?_, fun tables aggregates => rfl⟩⟩
  · rw [get?_scalarTypes, aggregatesOver]
    cases c.aggregates.get? type <;> rfl
  · rw [keys_scalarTypes, mem_occurringTypes]
    exact Iff.rfl

end Configuration

end SchemaSurvey
