/-
  `Tables` — how the tables of the document come from the stages.

  A table shows one exposed relation (`tableOf`). Since exposed relations have distinct names, no
  table replaces another and the tables are exactly those of the exposed relations (`get?_tables`).
  Keys hang on the relation whose row declares them: a constraint row gives an entry exactly when
  all of its column numbers can be named (`Resolution.ofRow_eq_unique_iff`,
  `Resolution.ofRow_eq_foreign_iff`).
-/
import SchemaSurvey.Proofs.Survey.Stages
import SchemaSurvey.Survey.Basic

namespace SchemaSurvey.Survey

open Catalog

/-! ### Constraints -/

namespace Resolution

variable {columns : Columns} {c : ConstraintRow}

theorem ofRow_eq_unique_iff {u : Uniqueness} :
    ofRow columns c = .unique u ↔ columns.contains c.relation = true ∧
      (c.kind = 'p' ∨ c.kind = 'u') ∧ ∃ names, columns.names? c.relation c.key = some names ∧
        u = ⟨c.oid, c.schema, c.name, c.relation, names⟩ := by
  unfold ofRow
  by_cases hexposed : columns.contains c.relation = true
  · rw [if_pos hexposed]
    by_cases hkind : c.kind = 'p' ∨ c.kind = 'u'
    · rw [if_pos (by simpa using hkind), ofUnique]
      cases columns.names? c.relation c.key with
      | none => simp
      | some names => simp [hexposed, hkind, eq_comm]
    · rw [if_neg (by simpa using hkind)]
      constructor
      · intro h
        split at h
        · unfold ofForeign at h
          split at h
          · split at h <;> cases h
          · cases h
        · cases h
      · exact fun h => absurd h.2.1 hkind
  · rw [if_neg hexposed]
    exact ⟨nofun, fun h => absurd h.1 hexposed⟩

theorem ofRow_eq_foreign_iff {f : ForeignKey} :
    ofRow columns c = .foreign f ↔ columns.contains c.relation = true ∧ c.kind = 'f' ∧
      columns.contains c.foreignRelation = true ∧ c.key.length = c.foreignKey.length ∧
      ∃ names foreignNames, columns.names? c.relation c.key = some names ∧
        columns.names? c.foreignRelation c.foreignKey = some foreignNames ∧
        f = ⟨c.oid, c.schema, c.name, c.relation, names, c.foreignRelation, foreignNames⟩ := by
  unfold ofRow
  by_cases hexposed : columns.contains c.relation = true
  · rw [if_pos hexposed]
    by_cases hkind : c.kind = 'f'
    · rw [if_neg (by simp [hkind]), if_pos (by simpa using hkind), ofForeign]
      by_cases hsides : columns.contains c.foreignRelation = true ∧
          c.key.length = c.foreignKey.length
      · rw [if_pos (by simpa using hsides)]
        cases columns.names? c.relation c.key with
        | none => simp
        | some names =>
          cases columns.names? c.foreignRelation c.foreignKey with
          | none => simp
          | some foreignNames => simp [hexposed, hkind, hsides, eq_comm]
      · rw [if_neg (by simpa using hsides)]
        exact ⟨nofun, fun h => absurd ⟨h.2.2.1, h.2.2.2.1⟩ hsides⟩
    · refine ⟨fun h => ?_, fun h => absurd h.2.1 hkind⟩
      split at h
      · unfold ofUnique at h
        split at h <;> cases h
      · rw [if_neg (by simpa using hkind)] at h
        cases h
  · rw [if_neg hexposed]
    exact ⟨nofun, fun h => absurd h.1 hexposed⟩

theorem unique?_eq_some {r : Resolution} {u : Uniqueness} : r.unique? = some u ↔ r = .unique u := by
  cases r <;> simp [unique?]

theorem foreign?_eq_some {r : Resolution} {f : ForeignKey} :
    r.foreign? = some f ↔ r = .foreign f := by
  cases r <;> simp [foreign?]

end Resolution

namespace Constraints

variable {rows : List ConstraintRow} {columns : Columns}

theorem mem_uniqueness {u : Uniqueness} : u ∈ (ofRows rows columns).uniqueness ↔
    ∃ c ∈ rows, Resolution.ofRow columns c = .unique u := by
  rw [ofRows, List.mem_mergeSort, List.mem_filterMap]
  simp only [List.mem_map, exists_exists_and_eq_and, Resolution.unique?_eq_some]

theorem mem_foreignKeys {f : ForeignKey} : f ∈ (ofRows rows columns).foreignKeys ↔
    ∃ c ∈ rows, Resolution.ofRow columns c = .foreign f := by
  rw [ofRows, List.mem_mergeSort, List.mem_filterMap]
  simp only [List.mem_map, exists_exists_and_eq_and, Resolution.foreign?_eq_some]

end Constraints

end Survey

namespace Survey

open Catalog Survey

/-! ### The keys of a table -/

variable {v : Survey} {oid : Oid} {name : String}

theorem uniqueness_of_get?_uniquenessOf {names : List String}
    (h : (v.uniquenessOf oid).get? name = some names) :
    ∃ u ∈ v.constraints.uniqueness, u.relation = oid ∧ u.name = name ∧ u.columns = names := by
  obtain ⟨u, hu, hentry⟩ := List.mem_map.mp (SortedMap.mem_of_get?_ofList h)
  obtain ⟨hu, hrelation⟩ := List.mem_filter.mp hu
  obtain ⟨hname, hnames⟩ := Prod.mk.inj hentry
  exact ⟨u, hu, by simpa using hrelation, hname, hnames⟩

theorem foreignKey_of_get?_foreignKeysOf {f : Document.ForeignKey}
    (h : (v.foreignKeysOf oid).get? name = some f) :
    ∃ k ∈ v.constraints.foreignKeys, k.relation = oid ∧ k.name = name ∧
      ∃ r, v.relations.get? k.foreignRelation = some r ∧ f = ⟨r.name, .ofList k.pairs⟩ := by
  obtain ⟨k, hk, hentry⟩ := List.mem_filterMap.mp (SortedMap.mem_of_get?_ofList h)
  obtain ⟨hk, hrelation⟩ := List.mem_filter.mp hk
  obtain ⟨r, hr, hentry⟩ := Option.map_eq_some_iff.mp hentry
  obtain ⟨hname, hf⟩ := Prod.mk.inj hentry
  exact ⟨k, hk, by simpa using hrelation, hname, r, hr, hf.symm⟩

/-! ### Tables -/

/-- The table that shows a relation. -/
def tableOf (v : Survey) (r : Relation) (schema : Schema) (columns : List Survey.Column) :
    Document.Table where
  schema := schema.name
  name := r.name
  description := Comments.relation? v.comments r.oid
  columns := .ofList (columns.map fun c => (c.name, v.columnEntry c))
  uniqueness := v.uniquenessOf r.oid
  foreignKeys := v.foreignKeysOf r.oid

/-- What is known of a table in the document: it shows an exposed relation. -/
structure Shows (v : Survey) (t : Document.Table) (r : Relation) (schema : Schema)
    (columns : List Survey.Column) : Prop where
  relation_eq : v.relations.get? r.oid = some r
  schema_eq : v.schemas.get? r.schema = some schema
  columns_eq : v.columns.get? r.oid = some columns
  table_eq : t = v.tableOf r schema columns

variable {s : Snapshot} {excluded : List String}

theorem oid_of_get?_relations {r : Relation} (h : (survey s excluded).relations.get? oid = some r) :
    r.oid = oid :=
  (Relation.least_of_get?_ofRows h).1

theorem get?_columns {cs : List Survey.Column} :
    (survey s excluded).columns.get? oid = some cs ↔
      (survey s excluded).relations.contains oid = true ∧
        (Exposure.ofRows (survey s excluded).types (liveRows s.attributes oid)).columns? =
          some cs :=
  Columns.get?_ofExposures

theorem mem_uniqueness {u : Uniqueness} : u ∈ (survey s excluded).constraints.uniqueness ↔
    ∃ c ∈ s.constraints, Resolution.ofRow (survey s excluded).columns c = .unique u :=
  Constraints.mem_uniqueness

theorem mem_foreignKeys {f : Survey.ForeignKey} :
    f ∈ (survey s excluded).constraints.foreignKeys ↔
      ∃ c ∈ s.constraints, Resolution.ofRow (survey s excluded).columns c = .foreign f :=
  Constraints.mem_foreignKeys

/-! ### Keys of distinct names -/

/-- The entry of a foreign key in the record of its owner. -/
def foreignItem? (v : Survey) (f : Survey.ForeignKey) : Option (String × Document.ForeignKey) :=
  (v.relations.get? f.foreignRelation).map fun foreign =>
    (f.name, { table := foreign.name, columns := .ofList f.pairs })

section

variable (hnames : (s.constraints.map fun c => (c.relation, c.name)).Nodup)

include hnames

/-- Primary keys and unique constraints of one relation have distinct names, since a row gives one
of them. -/
theorem uniqueness_unique {u w : Uniqueness}
    (hu : u ∈ (survey s excluded).constraints.uniqueness)
    (hw : w ∈ (survey s excluded).constraints.uniqueness) (hrelation : u.relation = w.relation)
    (hname : u.name = w.name) : u = w := by
  obtain ⟨c, hc, hcu⟩ := mem_uniqueness.mp hu
  obtain ⟨d, hd, hdw⟩ := mem_uniqueness.mp hw
  obtain ⟨-, -, _, -, hu_eq⟩ := Resolution.ofRow_eq_unique_iff.mp hcu
  obtain ⟨-, -, _, -, hw_eq⟩ := Resolution.ofRow_eq_unique_iff.mp hdw
  rw [hu_eq, hw_eq] at hrelation hname
  have hcd : c = d := List.inj_on_of_nodup_map hnames hc hd (Prod.ext hrelation hname)
  rw [hcd, hdw] at hcu
  exact (Resolution.unique.inj hcu).symm

/-- Foreign keys of one relation have distinct names, since a row gives one key. -/
theorem foreignKey_unique {f g : Survey.ForeignKey}
    (hf : f ∈ (survey s excluded).constraints.foreignKeys)
    (hg : g ∈ (survey s excluded).constraints.foreignKeys) (hrelation : f.relation = g.relation)
    (hname : f.name = g.name) : f = g := by
  obtain ⟨c, hc, hcf⟩ := mem_foreignKeys.mp hf
  obtain ⟨d, hd, hdg⟩ := mem_foreignKeys.mp hg
  obtain ⟨-, -, -, -, _, _, -, -, hf_eq⟩ := Resolution.ofRow_eq_foreign_iff.mp hcf
  obtain ⟨-, -, -, -, _, _, -, -, hg_eq⟩ := Resolution.ofRow_eq_foreign_iff.mp hdg
  rw [hf_eq, hg_eq] at hrelation hname
  have hcd : c = d := List.inj_on_of_nodup_map hnames hc hd (Prod.ext hrelation hname)
  rw [hcd, hdg] at hcf
  exact (Resolution.foreign.inj hcf).symm

/-- So the order in which they are stored does not matter. -/
theorem consistent_uniquenessOf : SortedMap.Consistent
    (((survey s excluded).constraints.uniqueness.filter fun u => u.relation == oid).map fun u =>
      (u.name, u.columns)) := by
  intro e he f hf hname
  obtain ⟨u, hu, rfl⟩ := List.mem_map.mp he
  obtain ⟨w, hw, rfl⟩ := List.mem_map.mp hf
  obtain ⟨hu, hu_relation⟩ := List.mem_filter.mp hu
  obtain ⟨hw, hw_relation⟩ := List.mem_filter.mp hw
  rw [beq_iff_eq] at hu_relation hw_relation
  rw [uniqueness_unique hnames hu hw (hu_relation.trans hw_relation.symm) hname]

theorem consistent_foreignKeysOf : SortedMap.Consistent
    (((survey s excluded).constraints.foreignKeys.filter fun f => f.relation == oid).filterMap
      (survey s excluded).foreignItem?) := by
  intro e he f hf hname
  obtain ⟨p, hp, hpe⟩ := List.mem_filterMap.mp he
  obtain ⟨q, hq, hqf⟩ := List.mem_filterMap.mp hf
  obtain ⟨hp, hp_relation⟩ := List.mem_filter.mp hp
  obtain ⟨hq, hq_relation⟩ := List.mem_filter.mp hq
  rw [beq_iff_eq] at hp_relation hq_relation
  have hpq : p = q := by
    obtain ⟨_, -, rfl⟩ := Option.map_eq_some_iff.mp hpe
    obtain ⟨_, -, rfl⟩ := Option.map_eq_some_iff.mp hqf
    exact foreignKey_unique hnames hp hq (hp_relation.trans hq_relation.symm) hname
  rw [hpq, hqf] at hpe
  rw [Option.some.inj hpe]

end

/-! ### The tables of the document -/

/-- **Every exposed relation has a table.** -/
theorem exists_shows {cs : List Survey.Column}
    (h : (survey s excluded).columns.get? oid = some cs) :
    ∃ t r schema, r.oid = oid ∧ (survey s excluded).Shows t r schema cs ∧
      (survey s excluded).table? oid cs = some t := by
  obtain ⟨r, hr⟩ := SortedMap.contains_iff.mp (get?_columns.mp h).1
  obtain ⟨schema, hschema⟩ := Relation.schema_of_get?_ofRows hr
  have hoid : r.oid = oid := oid_of_get?_relations hr
  refine ⟨(survey s excluded).tableOf r schema cs, r, schema, hoid,
    ⟨hoid ▸ hr, hschema, hoid ▸ h, rfl⟩, ?_⟩
  rw [table?, hr, Option.bind_eq_bind, Option.bind_some]
  change ((survey s excluded).schemas.get? r.schema).bind _ = _
  rw [show (survey s excluded).schemas.get? r.schema = some schema from hschema, Option.bind_some,
    tableOf, hoid]

/-- The entries from which the tables are stored. -/
theorem mem_tableEntries {e : String × Document.Table} :
    e ∈ (survey s excluded).columns.toList.filterMap (fun entry =>
        ((survey s excluded).table? entry.1 entry.2).map fun t => (t.name, t)) ↔
      e.1 = e.2.name ∧ ∃ r schema cs, (survey s excluded).Shows e.2 r schema cs := by
  rw [List.mem_filterMap]
  constructor
  · rintro ⟨⟨oid, cs⟩, hmem, hentry⟩
    obtain ⟨t, r, schema, -, hshows, htable⟩ := exists_shows (SortedMap.mem_toList_iff.mp hmem)
    rw [htable] at hentry
    obtain rfl := Option.some.inj hentry
    exact ⟨rfl, r, schema, cs, hshows⟩
  · rintro ⟨hname, r, schema, cs, hshows⟩
    obtain ⟨t, r', schema', hoid, hshows', htable⟩ := exists_shows hshows.columns_eq
    refine ⟨(r.oid, cs), SortedMap.mem_toList_iff.mpr hshows.columns_eq, ?_⟩
    have hr : r' = r := by
      have h := hshows'.relation_eq
      rw [hoid, hshows.relation_eq] at h
      exact (Option.some.inj h).symm
    have hschema : schema' = schema := by
      have h := hshows'.schema_eq
      rw [hr, hshows.schema_eq] at h
      exact (Option.some.inj h).symm
    have ht : t = e.2 := by rw [hshows'.table_eq, hshows.table_eq, hr, hschema]
    rw [htable, ht, Option.map_some, ← hname]

/-- **The tables are those of the exposed relations,** each under its name. -/
theorem get?_tables {t : Document.Table} :
    (survey s excluded).tables.get? name = some t ↔
      t.name = name ∧ ∃ r schema cs, (survey s excluded).Shows t r schema cs := by
  rw [tables, SortedMap.get?_ofList, mem_tableEntries, eq_comm]
  -- Two tables of one name show one relation, and so are the same.
  intro e he f hf hkey
  obtain ⟨hname_e, r, schema, cs, hr⟩ := mem_tableEntries.mp he
  obtain ⟨hname_f, r', schema', cs', hr'⟩ := mem_tableEntries.mp hf
  have hname : r.name = r'.name := by
    have : e.2.name = f.2.name := hname_e.symm.trans (hkey.trans hname_f)
    rwa [hr.table_eq, hr'.table_eq] at this
  have hoid : r.oid = r'.oid := Relation.oid_eq_of_name_eq hr.relation_eq hr'.relation_eq hname
  obtain rfl : r = r' := Option.some.inj (hr.relation_eq.symm.trans (hoid ▸ hr'.relation_eq))
  obtain rfl : schema = schema' := Option.some.inj (hr.schema_eq.symm.trans hr'.schema_eq)
  obtain rfl : cs = cs' := Option.some.inj (hr.columns_eq.symm.trans hr'.columns_eq)
  rw [hr.table_eq, hr'.table_eq]

/-! ### The columns of a table -/

variable {t : Document.Table} {r : Relation} {schema : Schema} {cs : List Survey.Column}

theorem Shows.contains_columns (h : v.Shows t r schema cs) :
    t.columns.contains name = true ↔ ∃ c ∈ cs, c.name = name := by
  rw [h.table_eq, tableOf, SortedMap.contains_ofList]
  simp

theorem Shows.column_of_get? (h : v.Shows t r schema cs) {entry : Document.Column}
    (hentry : t.columns.get? name = some entry) :
    ∃ c ∈ cs, c.name = name ∧ entry = v.columnEntry c := by
  rw [h.table_eq] at hentry
  obtain ⟨c, hc, heq⟩ := List.mem_map.mp (SortedMap.mem_of_get?_ofList hentry)
  obtain ⟨hname, hc_entry⟩ := Prod.mk.inj heq
  exact ⟨c, hc, hname, hc_entry.symm⟩

end SchemaSurvey.Survey
