/-
  `ColumnRule` — which relations have columns, and which columns they have.

  The rule is stated on the rows alone. A relation has columns if it is one of those asked about, if
  it has a live row, and if every live row has a type that is listed (`Survey.Exposable`). It then
  has one column for each live row (`Survey.Column.Shows`), by number, and columns of one number in
  the order of their rows (`Survey.Columns.get?_ofExposures_iff`). Rows that are not live count for
  nothing: they give no column, and their types hide no relation (`Survey.survey_attributes_congr`).

  Columns are stored by name in the document. Where the live rows of a relation have distinct names
  none of them is lost, so the table has one entry for each (`resolve_columns`).
-/
import SchemaSurvey.Proofs.Sorting
import SchemaSurvey.Proofs.Survey.AggregateRule
import SchemaSurvey.Proofs.Survey.ConstraintRule

namespace SchemaSurvey

open Catalog

/-! ### The rule -/

namespace Survey

/-- The column shows an attribute row: its name, its number and its not-null flag, and the oid and
the name of its type. -/
structure Column.Shows (types : SortedMap Oid ScalarType) (a : AttributeRow) (c : Column) :
    Prop where
  relation_eq : c.relation = a.relation
  name_eq : c.name = a.name
  number_eq : c.number = a.number
  nonNullable_iff : c.nullability = .nonNullable ↔ a.notNull = true
  type : ∃ t, types.get? a.type = some t ∧ c.typeOid = t.oid ∧ c.type = t.name

/-- The relation has a live row, and every live row of it has a listed type. -/
structure Exposable (rows : List AttributeRow) (types : SortedMap Oid ScalarType) (relation : Oid) :
    Prop where
  hasLive : ∃ a ∈ rows, a.relation = relation ∧ a.isLive = true
  typed : ∀ a ∈ rows, a.relation = relation → a.isLive = true → types.contains a.type = true

end Survey

/-- The entry shows an attribute row: its name, the name of its type, which is usable, and whether
it admits null. -/
structure Document.Column.Shows (types : List TypeRow) (a : AttributeRow) (entry : Column) :
    Prop where
  name_eq : entry.name = a.name
  typed : ∃ type ∈ types, type.oid = a.type ∧ type.isUsable = true
  type_eq : ∀ type ∈ types, type.oid = a.type → entry.type = type.name
  nonNullable_iff : entry.nullability = .nonNullable ↔ a.notNull = true

theorem Document.Nullability.ofNotNull_eq_nonNullable {notNull : Bool} :
    ofNotNull notNull = .nonNullable ↔ notNull = true := by
  cases notNull <;> simp [ofNotNull]

namespace Survey

variable {rows : List AttributeRow} {relations : SortedMap Oid Relation}
  {types : SortedMap Oid ScalarType} {oid : Oid} {a : AttributeRow}

/-! ### Rows and columns -/

/-- A row with a listed type is shown by one column. -/
theorem Column.ofRow?_eq_some_iff {c : Column} :
    Column.ofRow? types a = some c ↔ Column.Shows types a c := by
  unfold Column.ofRow?
  rw [Option.map_eq_some_iff]
  constructor
  · rintro ⟨t, ht, rfl⟩
    exact ⟨rfl, rfl, rfl, Document.Nullability.ofNotNull_eq_nonNullable, t, ht, rfl, rfl⟩
  · rintro ⟨hrelation, hname, hnumber, hnonNullable, t, ht, htypeOid, htype⟩
    have hnullability : c.nullability = .ofNotNull a.notNull := by
      rw [← Document.Nullability.ofNotNull_eq_nonNullable] at hnonNullable
      revert hnonNullable
      cases c.nullability <;> cases Document.Nullability.ofNotNull a.notNull <;> simp
    refine ⟨t, ht, ?_⟩
    rw [← hrelation, ← hname, ← hnumber, ← htypeOid, ← htype, ← hnullability]

/-- Where every row has a listed type, each is shown in its place. -/
theorem forall₂_shows_iff {live : List AttributeRow} {cs : List Column} :
    List.Forall₂ (Column.Shows types) live cs ↔
      (∀ a ∈ live, types.contains a.type = true) ∧ cs = live.filterMap (Column.ofRow? types) := by
  induction live generalizing cs with
  | nil => simp
  | cons a live ih =>
    rw [List.forall₂_cons_left_iff, List.forall_mem_cons, ← Column.ofRow?_isSome]
    simp only [ih]
    constructor
    · rintro ⟨c, rest, hc, ⟨htyped, rfl⟩, rfl⟩
      rw [← Column.ofRow?_eq_some_iff] at hc
      rw [List.filterMap_cons_some hc, hc]
      exact ⟨⟨rfl, htyped⟩, rfl⟩
    · rintro ⟨⟨hsome, htyped⟩, rfl⟩
      obtain ⟨c, hc⟩ := Option.isSome_iff_exists.mp hsome
      rw [List.filterMap_cons_some hc]
      exact ⟨c, _, Column.ofRow?_eq_some_iff.mp hc, ⟨htyped, rfl⟩, rfl⟩

/-- Columns are sorted as their rows are. -/
theorem filterMap_ofRow?_mergeSort (live : List AttributeRow) :
    (live.filterMap (Column.ofRow? types)).mergeSort (fun c d => c.number ≤ d.number) =
      (live.mergeSort fun a b => a.number ≤ b.number).filterMap (Column.ofRow? types) := by
  have hnumber : ∀ a c, Column.ofRow? types a = some c → c.number = a.number := fun a c hc =>
    (Column.ofRow?_eq_some_iff.mp hc).number_eq
  have hrows := isStableSort_mergeSort AttributeRow.number live
  have hcolumns := isStableSort_mergeSort Column.number (live.filterMap (Column.ofRow? types))
  exact hcolumns.unique (hrows.filterMap hnumber)

/-! ### The columns of a relation -/

theorem exposable_iff : Exposable rows types oid ↔
    liveRows rows oid ≠ [] ∧ ∀ a ∈ liveRows rows oid, types.contains a.type = true := by
  rw [liveRows_ne_nil_iff, forall_mem_liveRows]
  exact ⟨fun ⟨hlive, htyped⟩ => ⟨hlive, htyped⟩, fun ⟨hlive, htyped⟩ => ⟨hlive, htyped⟩⟩

/-- **The columns of a relation are its live rows,** stably sorted by number. -/
theorem Columns.get?_ofExposures_iff {cs : List Column} :
    (ofExposures (Exposure.ofRelations rows relations types)).get? oid = some cs ↔
      relations.contains oid = true ∧ Exposable rows types oid ∧
        ∃ sorted, IsStableSort AttributeRow.number (liveRows rows oid) sorted ∧
          List.Forall₂ (Column.Shows types) sorted cs := by
  rw [get?_ofExposures, Exposure.columns?_ofRows, exposable_iff, and_assoc,
    filterMap_ofRow?_mergeSort]
  have hsort := isStableSort_mergeSort AttributeRow.number (liveRows rows oid)
  refine and_congr_right fun _ => and_congr_right fun _ => and_congr_right fun htyped => ?_
  constructor
  · rintro rfl
    refine ⟨_, hsort, forall₂_shows_iff.mpr ⟨fun a ha => ?_, rfl⟩⟩
    exact htyped a (hsort.perm.mem_iff.mp ha)
  · rintro ⟨sorted, hsorted, hshows⟩
    obtain ⟨-, rfl⟩ := forall₂_shows_iff.mp hshows
    rw [hsorted.unique hsort]

theorem Columns.contains_ofExposures_iff :
    (ofExposures (Exposure.ofRelations rows relations types)).contains oid = true ↔
      relations.contains oid = true ∧ Exposable rows types oid := by
  rw [SortedMap.contains_iff]
  simp only [get?_ofExposures_iff]
  constructor
  · rintro ⟨_, hqueryable, hexposable, -⟩
    exact ⟨hqueryable, hexposable⟩
  · rintro ⟨hqueryable, hexposable⟩
    have hsort := isStableSort_mergeSort AttributeRow.number (liveRows rows oid)
    have htyped := (exposable_iff.mp hexposable).2
    refine ⟨_, hqueryable, hexposable, _, hsort, forall₂_shows_iff.mpr ⟨fun a ha => ?_, rfl⟩⟩
    exact htyped a (hsort.perm.mem_iff.mp ha)

/-! ### The entries of a table -/

variable {s : Snapshot} {excluded : List String} {t : Document.Table} {r : Relation}
  {schema : Schema} {cs : List Survey.Column}

/-- Names are not repeated among the live rows of one relation. -/
theorem nodup_names_liveRows (hnames : (rows.map fun a => (a.relation, a.name)).Nodup) :
    ((liveRows rows oid).map AttributeRow.name).Nodup := by
  have hlive : ((liveRows rows oid).map fun a => (a.relation, a.name)).Nodup :=
    hnames.sublist (List.filter_sublist.map _)
  refine List.Nodup.map_on (fun a ha b hb hname => ?_) hlive.of_map
  have ha_relation := (mem_liveRows.mp ha).2.1
  have hb_relation := (mem_liveRows.mp hb).2.1
  exact List.inj_on_of_nodup_map hlive ha hb (by rw [ha_relation, hb_relation, hname])

/-- The columns of a table have the names of the live rows. -/
theorem Shows.perm_names (h : (survey s excluded).Shows t r schema cs) :
    (cs.map Column.name).Perm ((liveRows s.attributes r.oid).map AttributeRow.name) := by
  obtain ⟨-, -, sorted, hsorted, hshows⟩ := Columns.get?_ofExposures_iff.mp h.columns_eq
  have hsame : cs.map Column.name = sorted.map AttributeRow.name := by
    have heq := List.forall₂_map_right_iff.mpr
      (List.forall₂_map_left_iff.mpr (hshows.imp fun _ _ hc => hc.name_eq.symm))
    exact (List.forall₂_eq_eq_eq ▸ heq).symm
  rw [hsame]
  exact hsorted.perm.map _

section

variable (h : (survey s excluded).Shows t r schema cs)
  (hnames : (s.attributes.map fun a => (a.relation, a.name)).Nodup)

include h hnames

/-- **A table has one entry for each live row.** -/
theorem Shows.size_columns : t.columns.size = (liveRows s.attributes r.oid).length := by
  have hnodup : (cs.map Column.name).Nodup :=
    h.perm_names.nodup_iff.mpr (nodup_names_liveRows hnames)
  have hkeys : (cs.map fun c => (c.name, (survey s excluded).columnEntry c)).map Prod.fst =
      cs.map Column.name := by
    rw [List.map_map]
    rfl
  calc t.columns.size
    _ = ((cs.map Column.name).dedup).length := by
      rw [h.table_eq, tableOf, SortedMap.size_ofList, hkeys]
    _ = (cs.map Column.name).length := by rw [hnodup.dedup]
    _ = (liveRows s.attributes r.oid).length := by rw [h.perm_names.length_eq, List.length_map]

/-- **The entry of a live row** shows the column of that row. -/
theorem Shows.exists_columnEntry (ha : a ∈ liveRows s.attributes r.oid) :
    ∃ c ∈ cs, Column.Shows (survey s excluded).types a c ∧
      t.columns.get? a.name = some ((survey s excluded).columnEntry c) := by
  have hcolumns := (get?_columns.mp h.columns_eq).2
  have htyped := (Exposure.columns?_ofRows.mp hcolumns).2.1 a ha
  rw [← Column.ofRow?_isSome] at htyped
  obtain ⟨c, hc⟩ := Option.isSome_iff_exists.mp htyped
  have hc_mem : c ∈ cs := (Exposure.mem_of_columns?_ofRows hcolumns).mpr ⟨a, ha, hc⟩
  have hshows := Column.ofRow?_eq_some_iff.mp hc
  have hnodup : (cs.map Column.name).Nodup :=
    h.perm_names.nodup_iff.mpr (nodup_names_liveRows hnames)
  refine ⟨c, hc_mem, hshows, ?_⟩
  rw [h.table_eq, tableOf, SortedMap.get?_ofList (SortedMap.consistent_map hnodup),
    ← hshows.name_eq]
  exact List.mem_map.mpr ⟨c, hc_mem, rfl⟩

end

/-- **The names of a table's columns** are those of the live rows. -/
theorem Shows.contains_columns_iff (h : (survey s excluded).Shows t r schema cs) {name : String} :
    t.columns.contains name = true ↔ ∃ a ∈ liveRows s.attributes r.oid, a.name = name := by
  rw [h.contains_columns]
  have hmem := h.perm_names.mem_iff (a := name)
  rwa [List.mem_map, List.mem_map] at hmem

/-- What the document shows of a column, it shows of the row. -/
theorem shows_columnEntry (htypes : (s.types.map TypeRow.oid).Nodup) {c : Survey.Column}
    (h : Column.Shows (survey s excluded).types a c) :
    Document.Column.Shows s.types a ((survey s excluded).columnEntry c) where
  name_eq := h.name_eq
  typed := by
    obtain ⟨type, htype, -⟩ := h.type
    exact ScalarType.contains_ofRows.mp (SortedMap.contains_of_get? htype)
  type_eq row hrow hoid := by
    obtain ⟨type, htype, -, hname⟩ := h.type
    obtain ⟨row', hrow', hoid', -, rfl⟩ := ScalarType.row_of_get? htype
    have hsame : row = row' :=
      List.inj_on_of_nodup_map htypes hrow hrow' (hoid.trans hoid'.symm)
    rw [hsame]
    exact hname
  nonNullable_iff := h.nonNullable_iff

/-! ### Rows that are not live -/

theorem liveRows_eq_filter :
    liveRows rows oid = (rows.filter AttributeRow.isLive).filter fun a => a.relation == oid := by
  rw [List.filter_filter]
  rfl

/-- **Rows that are not live count for nothing.** -/
theorem survey_attributes_congr (h : rows.filter AttributeRow.isLive =
      s.attributes.filter AttributeRow.isLive) :
    survey { s with attributes := rows } excluded = survey s excluded := by
  have hlive : ∀ oid, liveRows rows oid = liveRows s.attributes oid := fun oid => by
    rw [liveRows_eq_filter, liveRows_eq_filter, h]
  simp only [survey, Exposure.ofRelations_congr fun oid _ => hlive oid]

end Survey

/-- **The columns of a relation are exactly its live rows,** by number, if there is one and all of
them have listed types; otherwise the relation has no columns. A table has an entry for each live
row of its relation, under the name of the row, and no other. Rows that are not live make no
difference, neither to this table nor to any other. -/
theorem resolve_columns :
    (∀ (rows : List AttributeRow) (relations : SortedMap Oid Survey.Relation)
        (types : SortedMap Oid Survey.ScalarType) (oid : Oid),
      ((Survey.Columns.ofExposures (Survey.Exposure.ofRelations rows relations types)).contains
          oid = true ↔ relations.contains oid = true ∧ Survey.Exposable rows types oid) ∧
      ∀ cs, (Survey.Columns.ofExposures (Survey.Exposure.ofRelations rows relations types)).get?
          oid = some cs ↔ relations.contains oid = true ∧ Survey.Exposable rows types oid ∧
            ∃ sorted, IsStableSort AttributeRow.number (Survey.liveRows rows oid) sorted ∧
              List.Forall₂ (Survey.Column.Shows types) sorted cs) ∧
    (∀ (s : Snapshot) (excluded : List String), (s.types.map TypeRow.oid).Nodup →
      (s.attributes.map fun a => (a.relation, a.name)).Nodup →
      ∀ name t, (s.resolve excluded).tables.get? name = some t →
        (∃ c, s.Exposes excluded c ∧ c.name = name) ∧
        ∀ c, s.Exposes excluded c → c.name = name →
          t.columns.size = (Survey.liveRows s.attributes c.oid).length ∧
          (∀ x, t.columns.contains x = true ↔
            ∃ a ∈ Survey.liveRows s.attributes c.oid, a.name = x) ∧
          ∀ a ∈ Survey.liveRows s.attributes c.oid,
            ∃ entry, t.columns.get? a.name = some entry ∧ entry.Shows s.types a) ∧
    ∀ (s : Snapshot) (excluded : List String) (rows : List AttributeRow),
      rows.filter AttributeRow.isLive = s.attributes.filter AttributeRow.isLive →
        ({ s with attributes := rows } : Snapshot).resolve excluded = s.resolve excluded := by
  refine ⟨fun rows relations types oid => ?_, fun s excluded htypes hnames name t ht => ?_,
    fun s excluded rows hrows => ?_⟩
  · exact ⟨Survey.Columns.contains_ofExposures_iff, fun _ => Survey.Columns.get?_ofExposures_iff⟩
  · obtain ⟨d, r, schema, cs, hd, hd_name, hshows, hoid, hunique⟩ := Survey.exists_exposed ht
    refine ⟨⟨d, hd, hd_name⟩, fun c hc hc_name => ?_⟩
    obtain rfl : c = d := hunique c hc hc_name
    rw [← hoid]
    refine ⟨hshows.size_columns hnames, fun x => hshows.contains_columns_iff, fun a ha => ?_⟩
    obtain ⟨column, -, hcolumn, hentry⟩ := hshows.exists_columnEntry hnames ha
    exact ⟨_, hentry, Survey.shows_columnEntry htypes hcolumn⟩
  · exact congrArg Survey.document (Survey.survey_attributes_congr hrows)

open Catalog.Sample.Oids in
/-- Items with a dropped column of tags and a system column, neither of a usable type, among their
live columns. -/
def crowdedItems : Snapshot :=
  let b := ({} : Sample).table publicSchema "items" [⟨"id", int4, true⟩, ⟨"label", text, false⟩]
  let unseen : List AttributeRow :=
    [⟨60001, "ctid", -1, record, true, false⟩, ⟨60001, "tags", 3, textArray, false, true⟩]
  { b.snapshot with attributes := unseen ++ b.snapshot.attributes }

/-- The items have their two live columns. -/
theorem resolve_crowdedItems :
    (crowdedItems.types.map TypeRow.oid).Nodup ∧
      (crowdedItems.attributes.map fun a => (a.relation, a.name)).Nodup ∧
      ∃ t, (crowdedItems.resolve Sample.excluded).tables.get? "items" = some t ∧
        t.columns.size = 2 ∧ t.columns.contains "tags" = false ∧
        ∃ entry, t.columns.get? "id" = some entry ∧ entry.type = "int4" ∧
          entry.nullability = .nonNullable := by
  have htypes : (crowdedItems.types.map TypeRow.oid).Nodup := by decide
  have hnames : (crowdedItems.attributes.map fun a => (a.relation, a.name)).Nodup := by decide
  have hclasses : (crowdedItems.classes.map ClassRow.oid).Nodup := by decide
  let items : ClassRow := ⟨60001, Sample.Oids.publicSchema, "items", 'r'⟩
  let id : AttributeRow := ⟨60001, "id", 1, Sample.Oids.int4, true, false⟩
  have hitems : crowdedItems.Exposes Sample.excluded items := by decide
  obtain ⟨t, ht⟩ := Survey.exists_table hclasses hitems.wins hitems.showable
  obtain ⟨-, hdocument, -⟩ := resolve_columns
  obtain ⟨-, hrule⟩ := hdocument crowdedItems Sample.excluded htypes hnames "items" t ht
  obtain ⟨hsize, hcontains, hentries⟩ := hrule items hitems rfl
  obtain ⟨entry, hentry, hshows⟩ := hentries id (by decide)
  refine ⟨htypes, hnames, t, ht, hsize, ?_, entry, hentry, ?_, ?_⟩
  · rw [← Bool.not_eq_true, hcontains]
    decide
  · exact hshows.type_eq ⟨Sample.Oids.int4, Sample.Oids.pgCatalog, "int4", 'b', 'N', 0⟩
      (by decide) rfl
  · exact hshows.nonNullable_iff.mpr rfl

end SchemaSurvey
