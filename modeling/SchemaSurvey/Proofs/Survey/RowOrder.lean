/-
  `RowOrder` — the document does not depend on the order of the rows.

  A server returns the rows of a table in any order. The survey stores them in maps where the last
  row counts, sorts them, and lets rivals compete; each stage loses the order of its rows for a
  reason of its own. Maps lose it where the keys of the catalog are distinct (`KeysDistinct`), lists
  that are sorted where the numbers they are sorted by are, and the competition of rivals always,
  because rivals are compared as whole records. So nothing is assumed of classes and procedures.

  `resolve_eq_of_reordered` is the result: reordering the eight lists and the list of excluded names
  changes neither the document nor its text.
-/
import SchemaSurvey.Catalog.Sample
import SchemaSurvey.Document.Format
import SchemaSurvey.Proofs.Sorting
import SchemaSurvey.Proofs.Survey.Dependence

namespace SchemaSurvey

/-! ### Snapshots -/

namespace Catalog.Snapshot

/-- The same rows, in another order. -/
structure Reordered (s s' : Snapshot) : Prop where
  namespaces : s.namespaces.Perm s'.namespaces
  classes : s.classes.Perm s'.classes
  types : s.types.Perm s'.types
  attributes : s.attributes.Perm s'.attributes
  descriptions : s.descriptions.Perm s'.descriptions
  constraints : s.constraints.Perm s'.constraints
  procedures : s.procedures.Perm s'.procedures
  aggregates : s.aggregates.Perm s'.aggregates

/-- The keys that a server keeps distinct. -/
structure KeysDistinct (s : Snapshot) : Prop where
  namespaces : (s.namespaces.map NamespaceRow.oid).Nodup
  types : (s.types.map TypeRow.oid).Nodup
  attributes : (s.attributes.map fun a => (a.relation, a.number)).Nodup
  descriptions : (s.descriptions.map fun d => (d.object, d.holder, d.part)).Nodup
  constraints : (s.constraints.map ConstraintRow.oid).Nodup
  aggregates : (s.aggregates.map AggregateRow.procedure).Nodup

/-- The same rows, each list back to front. -/
def reversed (s : Snapshot) : Snapshot where
  namespaces := s.namespaces.reverse
  classes := s.classes.reverse
  types := s.types.reverse
  attributes := s.attributes.reverse
  descriptions := s.descriptions.reverse
  constraints := s.constraints.reverse
  procedures := s.procedures.reverse
  aggregates := s.aggregates.reverse

theorem reordered_reversed (s : Snapshot) : s.Reordered s.reversed where
  namespaces := (List.reverse_perm _).symm
  classes := (List.reverse_perm _).symm
  types := (List.reverse_perm _).symm
  attributes := (List.reverse_perm _).symm
  descriptions := (List.reverse_perm _).symm
  constraints := (List.reverse_perm _).symm
  procedures := (List.reverse_perm _).symm
  aggregates := (List.reverse_perm _).symm

end Catalog.Snapshot

namespace Survey

open Catalog

/-! ### Stage by stage -/

theorem Schema.ofRows_perm {rows rows' : List NamespaceRow} {excluded excluded' : List String}
    (hkeys : (rows.map NamespaceRow.oid).Nodup) (h : rows.Perm rows')
    (hexcluded : excluded.Perm excluded') :
    Schema.ofRows rows excluded = Schema.ofRows rows' excluded' := by
  -- Whether a name is excluded does not depend on where it stands in the list.
  have hcontains : ∀ name, excluded.contains name = excluded'.contains name := by
    intro name
    rw [List.contains_eq_mem, List.contains_eq_mem]
    simp only [hexcluded.mem_iff]
  rw [Schema.ofRows, Schema.ofRows]
  simp only [hcontains]
  exact SortedMap.ofList_perm (SortedMap.consistent_map_filter hkeys) ((h.filter _).map _)

theorem ScalarType.ofRows_perm {rows rows' : List TypeRow} (hkeys : (rows.map TypeRow.oid).Nodup)
    (h : rows.Perm rows') : ScalarType.ofRows rows = ScalarType.ofRows rows' :=
  SortedMap.ofList_perm (SortedMap.consistent_map_filter hkeys) ((h.filter _).map _)

theorem Relation.ofRows_perm {rows rows' : List ClassRow} {schemas : SortedMap Oid Schema}
    (h : rows.Perm rows') : Relation.ofRows rows schemas = Relation.ofRows rows' schemas := by
  rw [Relation.ofRows, Relation.ofRows, Relation.leastByName_perm (h.filterMap _)]

/-- Which live column hides a relation depends on the order of the rows; whether one does, and the
columns otherwise, do not. -/
theorem Exposure.columns?_ofRows_perm {types : SortedMap Oid ScalarType}
    {live live' : List AttributeRow}
    (hkeys : ∀ a ∈ live, ∀ b ∈ live, a.number = b.number → a = b) (h : live.Perm live') :
    (Exposure.ofRows types live).columns? = (Exposure.ofRows types live').columns? := by
  -- A column has the number of its row, and the numbers of the rows differ.
  have hsort : (live.filterMap (Column.ofRow? types)).mergeSort (fun a b => a.number ≤ b.number) =
      (live'.filterMap (Column.ofRow? types)).mergeSort fun a b => a.number ≤ b.number := by
    refine mergeSort_eq_of_perm Column.number ?_ (h.filterMap _)
    intro c hc d hd hnumber
    obtain ⟨a, ha, hac⟩ := List.mem_filterMap.mp hc
    obtain ⟨b, hb, hbd⟩ := List.mem_filterMap.mp hd
    have hab : a.number = b.number := by
      rw [← (Column.fields_of_ofRow? hac).2.2, ← (Column.fields_of_ofRow? hbd).2.2, hnumber]
    rw [hkeys a ha b hb hab, hbd] at hac
    exact (Option.some.inj hac).symm
  have hne : live ≠ [] ↔ live' ≠ [] := by
    rw [ne_eq, ne_eq, ← List.length_eq_zero_iff, ← List.length_eq_zero_iff, h.length_eq]
  apply Option.ext
  intro cs
  rw [Exposure.columns?_ofRows, Exposure.columns?_ofRows, hsort, hne]
  simp only [h.mem_iff]

theorem Columns.ofExposures_perm {rows rows' : List AttributeRow}
    {relations : SortedMap Oid Relation} {types : SortedMap Oid ScalarType}
    (hkeys : (rows.map fun a => (a.relation, a.number)).Nodup) (h : rows.Perm rows') :
    Columns.ofExposures (Exposure.ofRelations rows relations types) =
      Columns.ofExposures (Exposure.ofRelations rows' relations types) := by
  apply SortedMap.ext_get?
  intro oid
  apply Option.ext
  intro cs
  have hlive : (liveRows rows oid).Perm (liveRows rows' oid) := h.filter _
  rw [Columns.get?_ofExposures, Columns.get?_ofExposures, Exposure.columns?_ofRows_perm ?_ hlive]
  · intro a ha b hb hnumber
    obtain ⟨ha, ha_relation, -⟩ := mem_liveRows.mp ha
    obtain ⟨hb, hb_relation, -⟩ := mem_liveRows.mp hb
    refine List.inj_on_of_nodup_map hkeys ha hb ?_
    rw [ha_relation, hb_relation, hnumber]

theorem lastComment?_perm {rows rows' : List DescriptionRow}
    (hkeys : (rows.map fun d => (d.object, d.holder, d.part)).Nodup) (h : rows.Perm rows')
    (relation : Oid) (part : Int32) :
    lastComment? rows relation part = lastComment? rows' relation part := by
  rw [lastComment?, lastComment?, eq_of_perm_of_subsingleton ?_ (h.filter _)]
  intro d hd e he
  obtain ⟨hd, hd_key⟩ := List.mem_filter.mp hd
  obtain ⟨he, he_key⟩ := List.mem_filter.mp he
  simp only [Bool.and_eq_true, beq_iff_eq] at hd_key he_key
  refine List.inj_on_of_nodup_map hkeys hd he ?_
  rw [hd_key.1.1, hd_key.1.2, hd_key.2, he_key.1.1, he_key.1.2, he_key.2]

theorem Comments.ofColumns_perm {rows rows' : List DescriptionRow} {columns : Columns}
    (hkeys : (rows.map fun d => (d.object, d.holder, d.part)).Nodup) (h : rows.Perm rows') :
    Comments.ofColumns rows columns = Comments.ofColumns rows' columns := by
  simp only [Comments.ofColumns, Comments.ofRows, lastComment?_perm hkeys h]

/-- Constraints are resolved to records that carry the oid of their row. -/
theorem Constraints.ofRows_perm {rows rows' : List ConstraintRow} {columns : Columns}
    (hkeys : (rows.map ConstraintRow.oid).Nodup) (h : rows.Perm rows') :
    Constraints.ofRows rows columns = Constraints.ofRows rows' columns := by
  have hresolved := h.map (Resolution.ofRow columns)
  have huniqueness := mergeSort_eq_of_perm Uniqueness.oid ?_
    (hresolved.filterMap Resolution.unique?)
  have hforeign := mergeSort_eq_of_perm ForeignKey.oid ?_
    (hresolved.filterMap Resolution.foreign?)
  · simp only [Constraints.ofRows, huniqueness, hforeign, hresolved.count_eq]
  · -- Two keys with one oid come from one row, and a row gives one key.
    intro f hf g hg hoid
    simp only [List.mem_filterMap, List.mem_map, exists_exists_and_eq_and,
      Resolution.foreign?_eq_some] at hf hg
    obtain ⟨c, hc, hcf⟩ := hf
    obtain ⟨d, hd, hdg⟩ := hg
    obtain ⟨-, -, -, -, names, foreignNames, -, -, hf⟩ := Resolution.ofRow_eq_foreign_iff.mp hcf
    obtain ⟨-, -, -, -, names', foreignNames', -, -, hg⟩ := Resolution.ofRow_eq_foreign_iff.mp hdg
    rw [hf, hg] at hoid
    rw [List.inj_on_of_nodup_map hkeys hc hd hoid, hdg] at hcf
    exact (Resolution.foreign.inj hcf).symm
  · intro u hu w hw hoid
    simp only [List.mem_filterMap, List.mem_map, exists_exists_and_eq_and,
      Resolution.unique?_eq_some] at hu hw
    obtain ⟨c, hc, hcu⟩ := hu
    obtain ⟨d, hd, hdw⟩ := hw
    obtain ⟨-, -, names, -, hu⟩ := Resolution.ofRow_eq_unique_iff.mp hcu
    obtain ⟨-, -, names', -, hw⟩ := Resolution.ofRow_eq_unique_iff.mp hdw
    rw [hu, hw] at hoid
    rw [List.inj_on_of_nodup_map hkeys hc hd hoid, hdw] at hcu
    exact (Resolution.unique.inj hcu).symm

theorem Overload.qualifying_perm {procedures procedures' : List ProcedureRow}
    {aggregates aggregates' : List AggregateRow} {types : SortedMap Oid ScalarType}
    (hkeys : (aggregates.map AggregateRow.procedure).Nodup)
    (hprocedures : procedures.Perm procedures') (haggregates : aggregates.Perm aggregates') :
    (Overload.qualifying procedures aggregates types).Perm
      (Overload.qualifying procedures' aggregates' types) := by
  rw [Overload.qualifying, Overload.qualifying,
    SortedMap.ofList_perm (SortedMap.consistent_map hkeys) (haggregates.map _)]
  exact hprocedures.filterMap _

/-! ### The document -/

theorem document_congr {v w : Survey} (hschemas : v.schemas = w.schemas)
    (hrelations : v.relations = w.relations) (hcolumns : v.columns = w.columns)
    (hcomments : v.comments = w.comments) (hconstraints : v.constraints = w.constraints)
    (haggregates : v.aggregates = w.aggregates) : v.document = w.document :=
  document_eq_of_stages hschemas hrelations hcolumns hcomments
    (congrArg Constraints.uniqueness hconstraints) (congrArg Constraints.foreignKeys hconstraints)
    haggregates

end Survey

open Catalog

theorem resolve_reordered {s s' : Snapshot} {excluded excluded' : List String}
    (hkeys : s.KeysDistinct) (hrows : s.Reordered s') (hexcluded : excluded.Perm excluded') :
    s.resolve excluded = s'.resolve excluded' := by
  -- The stages are compared in the order in which they run, since each is given those before it.
  have hschemas := Survey.Schema.ofRows_perm hkeys.namespaces hrows.namespaces hexcluded
  have htypes := Survey.ScalarType.ofRows_perm hkeys.types hrows.types
  have hrelations : (survey s excluded).relations = (survey s' excluded').relations := by
    simp only [survey, hschemas]
    exact Survey.Relation.ofRows_perm hrows.classes
  have hcolumns : (survey s excluded).columns = (survey s' excluded').columns := by
    simp only [survey] at hrelations
    simp only [survey, hrelations, htypes]
    exact Survey.Columns.ofExposures_perm hkeys.attributes hrows.attributes
  have hcomments : (survey s excluded).comments = (survey s' excluded').comments := by
    simp only [survey] at hcolumns
    simp only [survey, hcolumns]
    exact Survey.Comments.ofColumns_perm hkeys.descriptions hrows.descriptions
  have hconstraints : (survey s excluded).constraints = (survey s' excluded').constraints := by
    simp only [survey] at hcolumns
    simp only [survey, hcolumns]
    exact Survey.Constraints.ofRows_perm hkeys.constraints hrows.constraints
  have haggregates : (survey s excluded).aggregates = (survey s' excluded').aggregates := by
    simp only [survey, htypes]
    exact Survey.AggregateCatalog.ofOverloads_perm
      (Survey.Overload.qualifying_perm hkeys.aggregates hrows.procedures hrows.aggregates)
  exact Survey.document_congr hschemas hrelations hcolumns hcomments hconstraints haggregates

/-- **The document does not depend on the order of the rows,** and so neither does its text. -/
theorem resolve_eq_of_reordered {s s' : Snapshot} {excluded excluded' : List String}
    (hkeys : s.KeysDistinct) (hrows : s.Reordered s') (hexcluded : excluded.Perm excluded') :
    s.resolve excluded = s'.resolve excluded' ∧
      Document.codec.compact (s.resolve excluded) =
        Document.codec.compact (s'.resolve excluded') ∧
      Document.codec.pretty (s.resolve excluded) =
        Document.codec.pretty (s'.resolve excluded') := by
  have hdocument := resolve_reordered hkeys hrows hexcluded
  exact ⟨hdocument, congrArg _ hdocument, congrArg _ hdocument⟩

open Catalog.Sample.Oids in
/-- A catalog full of rivals: three relations share a name or an oid, two columns a name, two keys
of one relation a name, and two overloads of an aggregate an oid. -/
def rivals : Snapshot where
  namespaces := [⟨pgCatalog, "pg_catalog"⟩, ⟨publicSchema, "public"⟩, ⟨archive, "archive"⟩]
  classes :=
    [⟨1, publicSchema, "orders", 'r'⟩, ⟨2, archive, "orders", 'v'⟩, ⟨1, publicSchema, "sales", 'r'⟩,
      ⟨3, publicSchema, "items", 'p'⟩]
  types :=
    [⟨int4, pgCatalog, "int4", 'b', 'N', 0⟩, ⟨text, pgCatalog, "text", 'b', 'S', 0⟩,
      ⟨int4Array, pgCatalog, "_int4", 'b', 'A', int4⟩]
  attributes :=
    [⟨1, "id", 1, int4, true, false⟩, ⟨3, "id", 1, int4, true, false⟩,
      ⟨1, "name", 2, text, false, false⟩, ⟨3, "id", 2, text, false, false⟩,
      ⟨2, "tags", 1, int4Array, false, false⟩]
  descriptions :=
    [⟨1, Survey.relationHolder, 0, "What was ordered"⟩,
      ⟨1, Survey.relationHolder, 2, "Display name"⟩, ⟨1, 1255, 0, "A function"⟩]
  constraints :=
    [⟨10, publicSchema, "key", 1, 'p', [1], 0, []⟩,
      ⟨11, publicSchema, "key", 1, 'u', [2, 1], 0, []⟩,
      ⟨12, publicSchema, "items_order", 3, 'f', [1, 2], 1, [1, 2]⟩]
  procedures :=
    [⟨20, "sum", pgCatalog, 'a', 1, [int4], text⟩, ⟨20, "sum", pgCatalog, 'a', 1, [int4], int4⟩,
      ⟨21, "sum", archive, 'a', 1, [int4], int4⟩]
  aggregates := [⟨20, 0⟩, ⟨21, 0⟩]

/-- The rivals may come in any order. -/
theorem resolve_rivals_reversed :
    rivals.KeysDistinct ∧ rivals.Reordered rivals.reversed ∧
      ["pg_catalog", "tiger"].Perm ["tiger", "pg_catalog"] ∧
      rivals.resolve ["pg_catalog", "tiger"] = rivals.reversed.resolve ["tiger", "pg_catalog"] := by
  have hkeys : rivals.KeysDistinct :=
    ⟨by decide, by decide, by decide, by decide, by decide, by decide⟩
  have hexcluded : ["pg_catalog", "tiger"].Perm ["tiger", "pg_catalog"] := by decide
  exact ⟨hkeys, rivals.reordered_reversed, hexcluded,
    (resolve_eq_of_reordered hkeys rivals.reordered_reversed hexcluded).1⟩

end SchemaSurvey
