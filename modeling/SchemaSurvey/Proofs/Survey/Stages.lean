/-
  `Stages` — what each stage of a survey answers.

  Every stage is described once, by what it answers for one key, and later proofs go through these
  descriptions: schemas and types by the rows they come from, relations by the least candidate of
  their name, columns by the live rows of their relation, overloads by the procedures that qualify.
  Nothing is assumed of the rows: oids may repeat and references may dangle.

  Two facts carry the rest. Relations have distinct names whatever the catalog holds
  (`Relation.oid_eq_of_name_eq`), and a relation has columns exactly when there is a live row and
  each has a usable type (`Exposure.columns?_ofRows`).
-/
import Mathlib.Data.List.Forall2
import SchemaSurvey.Proofs.Survey.Choice
import SchemaSurvey.Survey.Column

namespace SchemaSurvey.Survey

open Catalog

/-! ### Schemas and types -/

theorem Schema.contains_ofRows {rows : List NamespaceRow} {excluded : List String} {oid : Oid} :
    (Schema.ofRows rows excluded).contains oid = true ↔
      ∃ n ∈ rows, n.oid = oid ∧ n.name ∉ excluded := by
  rw [Schema.ofRows, SortedMap.contains_ofList]
  simp only [List.mem_map, List.mem_filter, Bool.not_eq_true', List.contains_eq_mem,
    decide_eq_false_iff_not, exists_exists_and_eq_and]
  constructor
  · rintro ⟨n, ⟨hn, hname⟩, hoid⟩
    exact ⟨n, hn, hoid, hname⟩
  · rintro ⟨n, hn, hoid, hname⟩
    exact ⟨n, ⟨hn, hname⟩, hoid⟩

theorem Schema.row_of_get? {rows : List NamespaceRow} {excluded : List String} {oid : Oid}
    {schema : Schema} (h : (Schema.ofRows rows excluded).get? oid = some schema) :
    ∃ n ∈ rows, n.oid = oid ∧ n.name ∉ excluded ∧ schema = ⟨n.oid, n.name⟩ := by
  obtain ⟨n, hn, hentry⟩ := List.mem_map.mp (SortedMap.mem_of_get?_ofList h)
  obtain ⟨hoid, hschema⟩ := Prod.mk.inj hentry
  obtain ⟨hn, hname⟩ := List.mem_filter.mp hn
  exact ⟨n, hn, hoid, by simpa using hname, hschema.symm⟩

theorem ScalarType.contains_ofRows {rows : List TypeRow} {oid : Oid} :
    (ScalarType.ofRows rows).contains oid = true ↔
      ∃ t ∈ rows, t.oid = oid ∧ t.isUsable = true := by
  rw [ScalarType.ofRows, SortedMap.contains_ofList]
  simp only [List.mem_map, List.mem_filter, exists_exists_and_eq_and]
  constructor
  · rintro ⟨t, ⟨ht, husable⟩, hoid⟩
    exact ⟨t, ht, hoid, husable⟩
  · rintro ⟨t, ht, hoid, husable⟩
    exact ⟨t, ⟨ht, husable⟩, hoid⟩

theorem ScalarType.row_of_get? {rows : List TypeRow} {oid : Oid} {type : ScalarType}
    (h : (ScalarType.ofRows rows).get? oid = some type) :
    ∃ t ∈ rows, t.oid = oid ∧ t.isUsable = true ∧ type = ⟨t.oid, t.schema, t.name⟩ := by
  obtain ⟨t, ht, hentry⟩ := List.mem_map.mp (SortedMap.mem_of_get?_ofList h)
  obtain ⟨hoid, htype⟩ := Prod.mk.inj hentry
  obtain ⟨ht, husable⟩ := List.mem_filter.mp ht
  exact ⟨t, ht, hoid, husable, htype.symm⟩

/-! ### Relations -/

theorem RelationKind.ofLetter?_eq_some_iff {c : Char} {k : RelationKind} :
    RelationKind.ofLetter? c = some k ↔ k.letter = c := by
  constructor
  · intro h
    unfold RelationKind.ofLetter? at h
    split at h <;> cases h <;> rfl
  · rintro rfl
    exact RelationKind.ofLetter?_letter k

namespace Relation

/-- The relations that the rows describe, rivals included. -/
def candidates (rows : List ClassRow) (schemas : SortedMap Oid Schema) : List Relation :=
  rows.filterMap (ofRow? schemas)

theorem ofRow?_eq_some_iff {schemas : SortedMap Oid Schema} {row : ClassRow} {r : Relation} :
    ofRow? schemas row = some r ↔ schemas.contains row.schema = true ∧ r.oid = row.oid ∧
      r.schema = row.schema ∧ r.name = row.name ∧ r.kind.letter = row.kind := by
  unfold ofRow?
  split
  · rename_i hschema
    rw [Option.map_eq_some_iff]
    constructor
    · rintro ⟨kind, hkind, rfl⟩
      exact ⟨hschema, rfl, rfl, rfl, RelationKind.ofLetter?_eq_some_iff.mp hkind⟩
    · rintro ⟨-, hoid, hschema', hname, hkind⟩
      refine ⟨r.kind, RelationKind.ofLetter?_eq_some_iff.mpr hkind, ?_⟩
      rw [← hoid, ← hschema', ← hname]
  · rename_i hschema
    exact ⟨nofun, fun h => absurd h.1 hschema⟩

theorem mem_candidates {rows : List ClassRow} {schemas : SortedMap Oid Schema} {r : Relation} :
    r ∈ candidates rows schemas ↔ ∃ row ∈ rows, ofRow? schemas row = some r :=
  List.mem_filterMap

/-- **A relation that is kept is the least of its name.** -/
theorem least_of_get?_ofRows {rows : List ClassRow} {schemas : SortedMap Oid Schema} {oid : Oid}
    {r : Relation} (h : (ofRows rows schemas).get? oid = some r) :
    r.oid = oid ∧ IsLeastOf order (candidates rows schemas) (fun s => s.name = r.name) r := by
  obtain ⟨s, hs, hentry⟩ := List.mem_map.mp (SortedMap.mem_of_get?_ofList h)
  obtain ⟨hoid, rfl⟩ := Prod.mk.inj hentry
  obtain ⟨n, hn⟩ := SortedMap.mem_values.mp hs
  have hleast := get?_leastByName.mp hn
  have hname : s.name = n := hleast.holds
  exact ⟨hoid, hname ▸ hleast⟩

/-- **Relations that are kept have distinct names.** -/
theorem oid_eq_of_name_eq {rows : List ClassRow} {schemas : SortedMap Oid Schema} {i j : Oid}
    {r s : Relation} (hr : (ofRows rows schemas).get? i = some r)
    (hs : (ofRows rows schemas).get? j = some s) (hname : r.name = s.name) : i = j := by
  obtain ⟨hi, hleast_r⟩ := least_of_get?_ofRows hr
  obtain ⟨hj, hleast_s⟩ := least_of_get?_ofRows hs
  rw [← hname] at hleast_s
  rw [← hi, ← hj, hleast_r.unique hleast_s]

theorem schema_of_get?_ofRows {rows : List ClassRow} {schemas : SortedMap Oid Schema} {oid : Oid}
    {r : Relation} (h : (ofRows rows schemas).get? oid = some r) :
    ∃ schema, schemas.get? r.schema = some schema := by
  obtain ⟨row, -, hrow⟩ := mem_candidates.mp (least_of_get?_ofRows h).2.mem
  obtain ⟨hcontains, -, hschema, -⟩ := ofRow?_eq_some_iff.mp hrow
  rw [hschema]
  exact SortedMap.contains_iff.mp hcontains

end Relation

/-! ### Columns -/

theorem mem_liveRows {rows : List AttributeRow} {oid : Oid} {a : AttributeRow} :
    a ∈ liveRows rows oid ↔ a ∈ rows ∧ a.relation = oid ∧ a.isLive = true := by
  simp [liveRows]

theorem liveRows_ne_nil_iff {rows : List AttributeRow} {oid : Oid} :
    liveRows rows oid ≠ [] ↔ ∃ a ∈ rows, a.relation = oid ∧ a.isLive = true := by
  constructor
  · intro hne
    obtain ⟨a, ha⟩ := List.exists_mem_of_ne_nil _ hne
    exact ⟨a, mem_liveRows.mp ha⟩
  · rintro ⟨a, ha⟩
    exact List.ne_nil_of_mem (mem_liveRows.mpr ha)

theorem forall_mem_liveRows {rows : List AttributeRow} {oid : Oid} {p : AttributeRow → Prop} :
    (∀ a ∈ liveRows rows oid, p a) ↔ ∀ a ∈ rows, a.relation = oid → a.isLive = true → p a := by
  simp only [mem_liveRows, and_imp]

theorem Column.ofRow?_isSome {types : SortedMap Oid ScalarType} {a : AttributeRow} :
    (Column.ofRow? types a).isSome = types.contains a.type := by
  rw [Column.ofRow?, Option.isSome_map]
  rfl

theorem Column.type_of_ofRow? {types : SortedMap Oid ScalarType} {a : AttributeRow} {c : Column}
    (h : Column.ofRow? types a = some c) : ∃ t, types.get? a.type = some t ∧ c.type = t.name := by
  obtain ⟨t, ht, rfl⟩ := Option.map_eq_some_iff.mp h
  exact ⟨t, ht, rfl⟩

theorem Column.fields_of_ofRow? {types : SortedMap Oid ScalarType} {a : AttributeRow} {c : Column}
    (h : Column.ofRow? types a = some c) :
    c.relation = a.relation ∧ c.name = a.name ∧ c.number = a.number := by
  obtain ⟨t, -, rfl⟩ := Option.map_eq_some_iff.mp h
  exact ⟨rfl, rfl, rfl⟩

/-- **A relation is exposed all or nothing.** -/
theorem Exposure.columns?_ofRows {types : SortedMap Oid ScalarType} {live : List AttributeRow}
    {cs : List Column} :
    (Exposure.ofRows types live).columns? = some cs ↔
      live ≠ [] ∧ (∀ a ∈ live, types.contains a.type = true) ∧
        cs = (live.filterMap (Column.ofRow? types)).mergeSort fun a b => a.number ≤ b.number := by
  unfold Exposure.ofRows
  cases hfind : live.find? fun a => !types.contains a.type with
  | some a =>
    refine ⟨nofun, fun ⟨_, hall, _⟩ => ?_⟩
    have hnot := List.find?_some hfind
    rw [hall a (List.mem_of_find?_eq_some hfind)] at hnot
    cases hnot
  | none =>
    have hall : ∀ a ∈ live, types.contains a.type = true := fun a ha => by
      simpa using List.find?_eq_none.mp hfind a ha
    -- Each live row gives a column, so there are none only if there are no live rows.
    have hnil : live.filterMap (Column.ofRow? types) = [] ↔ live = [] := by
      constructor
      · intro h
        refine List.eq_nil_iff_forall_not_mem.mpr fun a ha => ?_
        have hsome := hall a ha
        rw [← Column.ofRow?_isSome, List.filterMap_eq_nil_iff.mp h a ha] at hsome
        cases hsome
      · rintro rfl
        rfl
    cases hcolumns : live.filterMap (Column.ofRow? types) with
    | nil => exact ⟨nofun, fun ⟨hne, _⟩ => absurd (hnil.mp hcolumns) hne⟩
    | cons c rest =>
      have hne : live ≠ [] := fun h => by
        rw [hnil.mpr h] at hcolumns
        cases hcolumns
      constructor
      · intro h
        exact ⟨hne, hall, (Option.some.inj h).symm⟩
      · rintro ⟨-, -, rfl⟩
        rfl

theorem Exposure.mem_of_columns?_ofRows {types : SortedMap Oid ScalarType}
    {live : List AttributeRow} {cs : List Column}
    (h : (Exposure.ofRows types live).columns? = some cs) {c : Column} :
    c ∈ cs ↔ ∃ a ∈ live, Column.ofRow? types a = some c := by
  obtain ⟨-, -, rfl⟩ := Exposure.columns?_ofRows.mp h
  rw [List.mem_mergeSort, List.mem_filterMap]

namespace Columns

theorem get?_ofExposures {rows : List AttributeRow} {relations : SortedMap Oid Relation}
    {types : SortedMap Oid ScalarType} {oid : Oid} {cs : List Column} :
    (ofExposures (Exposure.ofRelations rows relations types)).get? oid = some cs ↔
      relations.contains oid = true ∧
        (Exposure.ofRows types (liveRows rows oid)).columns? = some cs := by
  rw [ofExposures, Exposure.ofRelations, SortedMap.get?_filterMap, SortedMap.get?_map,
    SortedMap.contains]
  cases relations.get? oid <;> simp

theorem column?_eq_some {columns : Columns} {oid : Oid} {number : Int16} {c : Column}
    (h : columns.column? oid number = some c) :
    ∃ cs, columns.get? oid = some cs ∧ c ∈ cs ∧ c.number = number := by
  obtain ⟨cs, hcs, hfind⟩ := Option.bind_eq_some_iff.mp h
  exact ⟨cs, hcs, List.mem_of_find?_eq_some hfind, by simpa using List.find?_some hfind⟩

/-- **Names are given number by number, or not at all.** -/
theorem names?_eq_some_iff {columns : Columns} {oid : Oid} {numbers : List Int16}
    {names : List String} :
    columns.names? oid numbers = some names ↔
      List.Forall₂ (fun number name => ∃ c, columns.column? oid number = some c ∧ c.name = name)
        numbers names := by
  rw [names?]
  induction numbers generalizing names with
  | nil => simp [eq_comm]
  | cons number numbers ih =>
    rw [List.mapM_cons, List.forall₂_cons_left_iff]
    simp only [bind, pure, Option.bind_eq_some_iff, Option.map_eq_some_iff, ih, Option.some.injEq]
    constructor
    · rintro ⟨name, ⟨c, hc, hname⟩, rest, hrest, rfl⟩
      exact ⟨name, rest, ⟨c, hc, hname⟩, hrest, rfl⟩
    · rintro ⟨name, rest, ⟨c, hc, hname⟩, hrest, rfl⟩
      exact ⟨name, ⟨c, hc, hname⟩, rest, hrest, rfl⟩

theorem column_of_mem_names? {columns : Columns} {oid : Oid} {numbers : List Int16}
    {names : List String} (h : columns.names? oid numbers = some names) {name : String}
    (hname : name ∈ names) : ∃ cs, columns.get? oid = some cs ∧ ∃ c ∈ cs, c.name = name := by
  have hforall := names?_eq_some_iff.mp h
  induction hforall with
  | nil => cases hname
  | cons hc _ ih =>
    rcases List.mem_cons.mp hname with rfl | hname
    · obtain ⟨c, hc, hcname⟩ := hc
      obtain ⟨cs, hcs, hmem, -⟩ := column?_eq_some hc
      exact ⟨cs, hcs, c, hmem, hcname⟩
    · rename_i hrest _
      exact ih (names?_eq_some_iff.mpr hrest) hname

end Columns

/-! ### Overloads -/

namespace Overload

/-- **An aggregate qualifies** by its kind, its arguments and both its types. -/
theorem ofRow?_eq_some_iff {directArguments : SortedMap Oid Int16}
    {types : SortedMap Oid ScalarType} {p : ProcedureRow} {o : Overload} :
    ofRow? directArguments types p = some o ↔
      p.isAggregate = true ∧ directArguments.get? p.oid = some 0 ∧
        ∃ oid argument result, p.singleArgument? = some oid ∧ types.get? oid = some argument ∧
          types.get? p.returnType = some result ∧
          o = ⟨p.oid, p.name, p.schema, argument.name, result.name⟩ := by
  unfold ofRow?
  by_cases h : p.isAggregate = true ∧ directArguments.get? p.oid = some 0
  · rw [if_pos (by simpa using h)]
    simp only [bind, Option.bind_eq_some_iff, Option.some.injEq]
    constructor
    · rintro ⟨oid, hoid, argument, hargument, result, hresult, ho⟩
      exact ⟨h.1, h.2, oid, argument, result, hoid, hargument, hresult, ho.symm⟩
    · rintro ⟨-, -, oid, argument, result, hoid, hargument, hresult, ho⟩
      exact ⟨oid, hoid, argument, hargument, result, hresult, ho.symm⟩
  · rw [if_neg (by simpa using h)]
    exact ⟨nofun, fun hrow => absurd ⟨hrow.1, hrow.2.1⟩ h⟩

theorem mem_qualifying {procedures : List ProcedureRow} {aggregates : List AggregateRow}
    {types : SortedMap Oid ScalarType} {o : Overload} :
    o ∈ qualifying procedures aggregates types ↔ ∃ p ∈ procedures,
      ofRow? (.ofList (aggregates.map fun a => (a.procedure, a.directArguments))) types p =
        some o :=
  List.mem_filterMap

end Overload

end SchemaSurvey.Survey
