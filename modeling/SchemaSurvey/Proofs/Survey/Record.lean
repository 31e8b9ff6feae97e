/-
  `Record` — what the record of one relation depends on.

  The record of a relation is read off its own rows: attributes, comments and constraints that are
  about it (`Snapshot.SameRows`). The rows of all relations are stored side by side and sorted
  together, but no stage lets one relation's rows act on another's. So two surveys in which a
  relation has the same rows, the same name and the same schema show the same record of it
  (`Survey.Shows.sameButForeignKeys`).

  Foreign keys also look at the columns of the relation they reference. A foreign key is the same
  if those are (`Survey.get?_foreignKeysOf_congr`).
-/
import SchemaSurvey.Proofs.Sorting
import SchemaSurvey.Proofs.Survey.Dependence

namespace SchemaSurvey

open Catalog

/-- The same record, foreign keys apart. -/
structure Document.Table.SameButForeignKeys (t u : Document.Table) : Prop where
  schema_eq : t.schema = u.schema
  name_eq : t.name = u.name
  description_eq : t.description = u.description
  columns_eq : t.columns = u.columns
  uniqueness_eq : t.uniqueness = u.uniqueness

theorem Document.Table.SameButForeignKeys.eq_of_foreignKeys {t u : Document.Table}
    (h : t.SameButForeignKeys u) (hforeign : t.foreignKeys = u.foreignKeys) : t = u := by
  obtain ⟨hschema, hname, hdescription, hcolumns, huniqueness⟩ := h
  cases t
  cases u
  simp_all only

/-- The same rows about one relation, in the same order. -/
structure Catalog.Snapshot.SameRows (s s' : Snapshot) (oid : Oid) : Prop where
  attributes : s.attributes.filter (fun a => a.relation == oid) =
    s'.attributes.filter fun a => a.relation == oid
  descriptions :
    s.descriptions.filter (fun d => d.holder == Survey.relationHolder && d.object == oid) =
      s'.descriptions.filter fun d => d.holder == Survey.relationHolder && d.object == oid
  constraints : s.constraints.filter (fun c => c.relation == oid) =
    s'.constraints.filter fun c => c.relation == oid

theorem Catalog.Snapshot.SameRows.refl (s : Snapshot) (oid : Oid) : s.SameRows s oid :=
  ⟨rfl, rfl, rfl⟩

namespace Survey

/-! ### Rows of one relation -/

theorem liveRows_congr {rows rows' : List AttributeRow} {oid : Oid}
    (h : rows.filter (fun a => a.relation == oid) = rows'.filter fun a => a.relation == oid) :
    liveRows rows oid = liveRows rows' oid := by
  have split : ∀ l : List AttributeRow,
      liveRows l oid = (l.filter fun a => a.relation == oid).filter AttributeRow.isLive := by
    intro l
    rw [liveRows, List.filter_filter]
    simp only [Bool.and_comm]
  rw [split, split, h]

theorem lastComment?_congr {rows rows' : List DescriptionRow} {oid : Oid}
    (h : rows.filter (fun d => d.holder == relationHolder && d.object == oid) =
      rows'.filter fun d => d.holder == relationHolder && d.object == oid) (part : Int32) :
    lastComment? rows oid part = lastComment? rows' oid part := by
  have split : ∀ l : List DescriptionRow,
      l.filter (fun d => d.holder == relationHolder && d.object == oid && d.part == part) =
        (l.filter fun d => d.holder == relationHolder && d.object == oid).filter
          fun d => d.part == part := by
    intro l
    rw [List.filter_filter]
    simp only [Bool.and_comm]
  rw [lastComment?, lastComment?, split, split, h]

theorem Comments.get?_ofColumns_congr {rows rows' : List DescriptionRow} {columns columns' : Columns}
    {oid : Oid} (hcolumns : columns.get? oid = columns'.get? oid)
    (h : rows.filter (fun d => d.holder == relationHolder && d.object == oid) =
      rows'.filter fun d => d.holder == relationHolder && d.object == oid) :
    (ofColumns rows columns).get? oid = (ofColumns rows' columns').get? oid := by
  rw [ofColumns, ofColumns, SortedMap.get?_map, SortedMap.get?_map, hcolumns]
  simp only [ofRows, lastComment?_congr h]

/-! ### One constraint -/

section

variable {columns columns' : Columns} {c : ConstraintRow}

theorem Columns.names?_congr {oid : Oid} (h : columns.get? oid = columns'.get? oid)
    (numbers : List Int16) : columns.names? oid numbers = columns'.names? oid numbers := by
  simp only [Columns.names?, Columns.column?, h]

theorem Resolution.unique?_ofRow_congr (h : columns.get? c.relation = columns'.get? c.relation) :
    (ofRow columns c).unique? = (ofRow columns' c).unique? := by
  apply Option.ext
  intro u
  rw [unique?_eq_some, unique?_eq_some, ofRow_eq_unique_iff, ofRow_eq_unique_iff,
    SortedMap.contains, SortedMap.contains, h]
  simp only [Columns.names?_congr h]

theorem Resolution.foreign?_ofRow_congr (h : columns.get? c.relation = columns'.get? c.relation)
    (hforeign : columns.get? c.foreignRelation = columns'.get? c.foreignRelation) :
    (ofRow columns c).foreign? = (ofRow columns' c).foreign? := by
  apply Option.ext
  intro f
  rw [foreign?_eq_some, foreign?_eq_some, ofRow_eq_foreign_iff, ofRow_eq_foreign_iff]
  simp only [SortedMap.contains, h, hforeign, Columns.names?_congr h, Columns.names?_congr hforeign]

end

/-! ### The constraints of one relation -/

namespace Constraints

variable {rows rows' : List ConstraintRow} {columns columns' : Columns}

/-- **Constraints may be chosen among the rows.** -/
theorem filter_uniqueness {p : Uniqueness → Bool} {q : ConstraintRow → Bool}
    (h : ∀ c ∈ rows, ∀ u, Resolution.ofRow columns c = .unique u → p u = q c) :
    (ofRows rows columns).uniqueness.filter p = (ofRows (rows.filter q) columns).uniqueness := by
  simp only [ofRows, List.filterMap_map]
  rw [filter_mergeSort, filter_filterMap_of_iff]
  exact fun c hc u hu => h c hc u (Resolution.unique?_eq_some.mp hu)

theorem filter_foreignKeys {p : ForeignKey → Bool} {q : ConstraintRow → Bool}
    (h : ∀ c ∈ rows, ∀ f, Resolution.ofRow columns c = .foreign f → p f = q c) :
    (ofRows rows columns).foreignKeys.filter p = (ofRows (rows.filter q) columns).foreignKeys := by
  simp only [ofRows, List.filterMap_map]
  rw [filter_mergeSort, filter_filterMap_of_iff]
  exact fun c hc f hf => h c hc f (Resolution.foreign?_eq_some.mp hf)

theorem uniqueness_congr (h : ∀ c ∈ rows, columns.get? c.relation = columns'.get? c.relation) :
    (ofRows rows columns).uniqueness = (ofRows rows columns').uniqueness := by
  have hrows : rows.filterMap (Resolution.unique? ∘ Resolution.ofRow columns) =
      rows.filterMap (Resolution.unique? ∘ Resolution.ofRow columns') :=
    List.filterMap_congr fun c hc => Resolution.unique?_ofRow_congr (h c hc)
  simp only [ofRows, List.filterMap_map, hrows]

theorem foreignKeys_congr (h : ∀ c ∈ rows, columns.get? c.relation = columns'.get? c.relation ∧
      columns.get? c.foreignRelation = columns'.get? c.foreignRelation) :
    (ofRows rows columns).foreignKeys = (ofRows rows columns').foreignKeys := by
  have hrows : rows.filterMap (Resolution.foreign? ∘ Resolution.ofRow columns) =
      rows.filterMap (Resolution.foreign? ∘ Resolution.ofRow columns') :=
    List.filterMap_congr fun c hc => Resolution.foreign?_ofRow_congr (h c hc).1 (h c hc).2
  simp only [ofRows, List.filterMap_map, hrows]

end Constraints

end Survey

namespace Survey

open Survey

variable {s s' : Snapshot} {excluded excluded' : List String} {oid : Oid} {name : String}

/-! ### What two surveys know of one relation -/

theorem get?_columns_congr (htypes : s.types = s'.types)
    (hkept : (survey s excluded).relations.contains oid =
      (survey s' excluded').relations.contains oid) (hrows : s.SameRows s' oid) :
    (survey s excluded).columns.get? oid = (survey s' excluded').columns.get? oid := by
  have hsurveyed : (survey s excluded).types = (survey s' excluded').types :=
    congrArg ScalarType.ofRows htypes
  apply Option.ext
  intro cs
  rw [get?_columns, get?_columns, hkept, hsurveyed, liveRows_congr hrows.attributes]

/-- The primary keys and unique constraints of a relation come from its own rows. -/
theorem uniquenessOf_eq : (survey s excluded).uniquenessOf oid =
    .ofList ((Constraints.ofRows (s.constraints.filter fun c => c.relation == oid)
      (survey s excluded).columns).uniqueness.map fun u => (u.name, u.columns)) := by
  have hchosen : (survey s excluded).constraints.uniqueness.filter (fun u => u.relation == oid) =
      (Constraints.ofRows (s.constraints.filter fun c => c.relation == oid)
        (survey s excluded).columns).uniqueness := by
    refine Constraints.filter_uniqueness fun c _ u hu => ?_
    obtain ⟨-, -, names, -, rfl⟩ := Resolution.ofRow_eq_unique_iff.mp hu
    rfl
  rw [uniquenessOf, hchosen]

theorem uniquenessOf_congr
    (hcolumns : (survey s excluded).columns.get? oid = (survey s' excluded').columns.get? oid)
    (hrows : s.SameRows s' oid) :
    (survey s excluded).uniquenessOf oid = (survey s' excluded').uniquenessOf oid := by
  rw [uniquenessOf_eq, uniquenessOf_eq, hrows.constraints]
  rw [Constraints.uniqueness_congr]
  intro c hc
  have hrelation : c.relation = oid := by simpa using (List.mem_filter.mp hc).2
  rw [hrelation, hcolumns]

/-- A foreign key of a relation comes from the rows of that relation and that name. -/
theorem get?_foreignKeysOf_eq : ((survey s excluded).foreignKeysOf oid).get? name =
    (SortedMap.ofList ((Constraints.ofRows
      (s.constraints.filter fun c => c.relation == oid && c.name == name)
        (survey s excluded).columns).foreignKeys.filterMap
          (survey s excluded).foreignItem?)).get? name := by
  have hchosen : ((survey s excluded).constraints.foreignKeys.filter
        fun f => f.relation == oid).filter (fun f => f.name == name) =
      (Constraints.ofRows (s.constraints.filter fun c => c.relation == oid && c.name == name)
        (survey s excluded).columns).foreignKeys := by
    rw [List.filter_filter]
    refine Constraints.filter_foreignKeys fun c _ f hf => ?_
    obtain ⟨-, -, -, -, names, foreignNames, -, -, rfl⟩ := Resolution.ofRow_eq_foreign_iff.mp hf
    exact Bool.and_comm _ _
  -- An entry is stored under the name of its key, so names can be chosen before or after.
  have hentries : (((survey s excluded).constraints.foreignKeys.filter
        fun f => f.relation == oid).filterMap (survey s excluded).foreignItem?).filter
          (fun e => decide (e.1 = name)) =
      (((survey s excluded).constraints.foreignKeys.filter
        fun f => f.relation == oid).filter fun f => f.name == name).filterMap
          (survey s excluded).foreignItem? := by
    refine filter_filterMap_of_iff fun f _ e he => ?_
    obtain ⟨r, -, rfl⟩ := Option.map_eq_some_iff.mp he
    rfl
  rw [← hchosen, ← hentries, SortedMap.get?_ofList_filter]
  rfl

/-- **A foreign key depends on the columns of both sides,** and on the name of the referenced
relation. -/
theorem get?_foreignKeysOf_congr
    (hrelations : (survey s excluded).relations = (survey s' excluded').relations)
    (hcolumns : (survey s excluded).columns.get? oid = (survey s' excluded').columns.get? oid)
    (hrows : s.SameRows s' oid)
    (hforeign : ∀ c ∈ s.constraints, c.relation = oid → c.name = name →
      (survey s excluded).columns.get? c.foreignRelation =
        (survey s' excluded').columns.get? c.foreignRelation) :
    ((survey s excluded).foreignKeysOf oid).get? name =
      ((survey s' excluded').foreignKeysOf oid).get? name := by
  have hentry : (survey s excluded).foreignItem? = (survey s' excluded').foreignItem? := by
    funext f
    rw [foreignItem?, foreignItem?, hrelations]
  have hchosen : s.constraints.filter (fun c => c.relation == oid && c.name == name) =
      s'.constraints.filter fun c => c.relation == oid && c.name == name := by
    have split : ∀ l : List ConstraintRow,
        l.filter (fun c => c.relation == oid && c.name == name) =
          (l.filter fun c => c.relation == oid).filter fun c => c.name == name := by
      intro l
      rw [List.filter_filter]
      simp only [Bool.and_comm]
    rw [split, split, hrows.constraints]
  rw [get?_foreignKeysOf_eq, get?_foreignKeysOf_eq, hentry, ← hchosen, Constraints.foreignKeys_congr]
  intro c hc
  obtain ⟨hc, hread⟩ := List.mem_filter.mp hc
  rw [Bool.and_eq_true, beq_iff_eq, beq_iff_eq] at hread
  exact ⟨by rw [hread.1, hcolumns], hforeign c hc hread.1 hread.2⟩

/-! ### The record -/

/-- **A relation has the same record wherever it has the same rows.** -/
theorem Shows.sameButForeignKeys {t t' : Document.Table} {r r' : Relation}
    {schema schema' : Schema} {cs cs' : List Survey.Column} (htypes : s.types = s'.types)
    (h : (survey s excluded).Shows t r schema cs) (h' : (survey s' excluded').Shows t' r' schema' cs')
    (hoid : r.oid = r'.oid) (hname : r.name = r'.name) (hschema : schema.name = schema'.name)
    (hrows : s.SameRows s' r.oid) : t.SameButForeignKeys t' := by
  have hkept : (survey s excluded).relations.contains r.oid =
      (survey s' excluded').relations.contains r.oid := by
    rw [SortedMap.contains_of_get? h.relation_eq, hoid, SortedMap.contains_of_get? h'.relation_eq]
  have hcolumns := get?_columns_congr htypes hkept hrows
  have hcomments : (survey s excluded).comments.get? r.oid =
      (survey s' excluded').comments.get? r.oid :=
    Comments.get?_ofColumns_congr hcolumns hrows.descriptions
  have hcs : cs = cs' := by
    have hget := h.columns_eq
    rw [hcolumns, hoid, h'.columns_eq] at hget
    exact (Option.some.inj hget).symm
  -- The columns listed for a relation are its own, and so are the comments they are shown with.
  have hentry : ∀ c ∈ cs,
      (survey s excluded).columnEntry c = (survey s' excluded').columnEntry c := by
    intro c hc
    obtain ⟨a, ha, hac⟩ := (Exposure.mem_of_columns?_ofRows (get?_columns.mp h.columns_eq).2).mp hc
    have hrelation : c.relation = r.oid :=
      (Column.fields_of_ofRow? hac).1.trans (mem_liveRows.mp ha).2.1
    rw [columnEntry, columnEntry, Comments.column?, Comments.column?, hrelation, hcomments]
  rw [h.table_eq, h'.table_eq, tableOf, tableOf, ← hoid, ← hcs]
  refine ⟨hschema, hname, ?_, ?_, uniquenessOf_congr hcolumns hrows⟩
  · show Comments.relation? _ _ = Comments.relation? _ _
    rw [Comments.relation?, Comments.relation?, hcomments]
  · show SortedMap.ofList _ = SortedMap.ofList _
    rw [List.map_congr_left fun c hc => congrArg (Prod.mk c.name) (hentry c hc)]

/-- The table under the name of a relation that is kept shows that relation. -/
theorem shows_of_get?_tables {r : Relation} {t : Document.Table}
    (hr : (survey s excluded).relations.get? oid = some r)
    (ht : (survey s excluded).tables.get? r.name = some t) :
    ∃ schema cs, (survey s excluded).Shows t r schema cs := by
  obtain ⟨hname, q, schema, cs, hshows⟩ := get?_tables.mp ht
  rw [hshows.table_eq] at hname
  -- Names are distinct among the relations that are kept.
  have hoid : q.oid = oid := Relation.oid_eq_of_name_eq hshows.relation_eq hr hname
  have hq := hshows.relation_eq
  rw [hoid, hr] at hq
  obtain rfl := Option.some.inj hq
  exact ⟨schema, cs, hshows⟩

/-- A relation has a table under its name exactly when it is exposed. -/
theorem contains_tables_iff {r : Relation}
    (hr : (survey s excluded).relations.get? oid = some r) :
    (survey s excluded).tables.contains r.name = true ↔
      (survey s excluded).columns.contains oid = true := by
  have hoid : r.oid = oid := oid_of_get?_relations hr
  rw [SortedMap.contains_iff, SortedMap.contains_iff]
  constructor
  · rintro ⟨t, ht⟩
    obtain ⟨schema, cs, hshows⟩ := shows_of_get?_tables hr ht
    exact ⟨cs, hoid ▸ hshows.columns_eq⟩
  · rintro ⟨cs, hcs⟩
    obtain ⟨t, q, schema, hq_oid, hshows, -⟩ := exists_shows hcs
    have hq := hshows.relation_eq
    rw [hq_oid, hr] at hq
    refine ⟨t, get?_tables.mpr ⟨?_, q, schema, cs, hshows⟩⟩
    rw [hshows.table_eq, tableOf, Option.some.inj hq]

end Survey

end SchemaSurvey
