/-
  `Hidden` — what a survey leaves out leaves no trace.

  A relation is kept if its schema is not excluded and it is the one that its name stands for. The
  snapshot without anything else (`Snapshot.withoutHidden`) gives the same document
  (`resolve_withoutHidden`): a hidden relation can neither lend its constraints or comments to a
  namesake, nor decide on a choice among others, nor be referenced. Nothing is assumed of the rows.

  The document reads only what concerns kept relations, which is shown stage by stage; the choice
  among rivals stands because the rows that are left describe the relations kept and no others.
-/
import SchemaSurvey.Catalog.Sample
import SchemaSurvey.Proofs.Survey.Dependence

namespace SchemaSurvey

open Catalog Survey

/-- The snapshot without what a survey leaves out: excluded schemas, rows of relations that are not
kept, what is attached to such relations, and foreign keys that reference one. -/
def Catalog.Snapshot.withoutHidden (s : Snapshot) (excluded : List String) : Snapshot :=
  let schemas := (survey s excluded).schemas
  let kept := (survey s excluded).relations
  { s with
    namespaces := s.namespaces.filter fun n => !excluded.contains n.name
    classes := s.classes.filter fun c =>
      (Relation.ofRow? schemas c).any fun r => kept.values.contains r
    attributes := s.attributes.filter fun a => kept.contains a.relation
    descriptions := s.descriptions.filter fun d =>
      d.holder != relationHolder || kept.contains d.object
    constraints := s.constraints.filter fun c =>
      kept.contains c.relation && (c.kind != 'f' || kept.contains c.foreignRelation) }

namespace Survey

variable {s : Snapshot} {excluded : List String}

theorem contains_relations_of_columns {oid : Oid}
    (h : (survey s excluded).columns.contains oid = true) :
    (survey s excluded).relations.contains oid = true := by
  obtain ⟨cs, hcs⟩ := SortedMap.contains_iff.mp h
  exact (get?_columns.mp hcs).1

/-! ### Stage by stage -/

theorem schemas_withoutHidden :
    (survey (s.withoutHidden excluded) excluded).schemas = (survey s excluded).schemas :=
  Schema.ofRows_filter fun n _ hlisted => by simpa using hlisted

theorem relations_withoutHidden :
    (survey (s.withoutHidden excluded) excluded).relations = (survey s excluded).relations := by
  change Relation.ofRows _ (survey (s.withoutHidden excluded) excluded).schemas = _
  rw [schemas_withoutHidden]
  refine Relation.ofRows_filter fun c _ => ?_
  rw [Option.any_eq_true]
  refine exists_congr fun r => and_congr_right fun _ => ?_
  rw [List.contains_iff_mem]
  exact Relation.mem_values_ofRows

theorem exposures_withoutHidden :
    (survey (s.withoutHidden excluded) excluded).exposures = (survey s excluded).exposures := by
  change Exposure.ofRelations _ (survey (s.withoutHidden excluded) excluded).relations _ = _
  rw [relations_withoutHidden]
  exact Exposure.ofRelations_filter fun a _ hkept => hkept

theorem columns_withoutHidden :
    (survey (s.withoutHidden excluded) excluded).columns = (survey s excluded).columns :=
  congrArg Columns.ofExposures exposures_withoutHidden

theorem comments_withoutHidden :
    (survey (s.withoutHidden excluded) excluded).comments = (survey s excluded).comments := by
  change Comments.ofColumns _ (survey (s.withoutHidden excluded) excluded).columns = _
  rw [columns_withoutHidden]
  refine Comments.ofColumns_filter fun d _ _ hexposed => ?_
  rw [contains_relations_of_columns hexposed, Bool.or_true]

theorem uniqueness_withoutHidden :
    (survey (s.withoutHidden excluded) excluded).constraints.uniqueness =
      (survey s excluded).constraints.uniqueness := by
  change (Constraints.ofRows _
    (survey (s.withoutHidden excluded) excluded).columns).uniqueness = _
  rw [columns_withoutHidden]
  refine Constraints.uniqueness_filter fun c _ u hu => ?_
  obtain ⟨hexposed, hkind, -⟩ := Resolution.ofRow_eq_unique_iff.mp hu
  have hforeign : c.kind ≠ 'f' := by rcases hkind with h | h <;> rw [h] <;> decide
  rw [contains_relations_of_columns hexposed, bne_iff_ne.mpr hforeign, Bool.true_or, Bool.and_self]

theorem foreignKeys_withoutHidden :
    (survey (s.withoutHidden excluded) excluded).constraints.foreignKeys =
      (survey s excluded).constraints.foreignKeys := by
  change (Constraints.ofRows _
    (survey (s.withoutHidden excluded) excluded).columns).foreignKeys = _
  rw [columns_withoutHidden]
  refine Constraints.foreignKeys_filter fun c _ f hf => ?_
  obtain ⟨hexposed, -, hforeign, -⟩ := Resolution.ofRow_eq_foreign_iff.mp hf
  rw [contains_relations_of_columns hexposed, contains_relations_of_columns hforeign,
    Bool.or_true, Bool.and_self]

/-- A table is in a schema that is not excluded. -/
theorem Shows.schema_not_mem {t : Document.Table} {r : Relation} {schema : Schema}
    {cs : List Survey.Column} (h : (survey s excluded).Shows t r schema cs) :
    t.schema ∉ excluded := by
  obtain ⟨n, -, -, hlisted, hschema⟩ := Schema.row_of_get? h.schema_eq
  have hname : t.schema = n.name := by rw [h.table_eq, tableOf, hschema]
  rwa [hname]

end Survey

/-- **What is left out leaves no trace.** Excluded schemas, relations that are not kept, and all
that hangs on them can be removed from the snapshot without a change in the document, and no table
of the document is in an excluded schema. -/
theorem resolve_withoutHidden (s : Snapshot) (excluded : List String) :
    (s.withoutHidden excluded).resolve excluded = s.resolve excluded ∧
      ∀ name t, (s.resolve excluded).tables.get? name = some t → t.schema ∉ excluded := by
  refine ⟨?_, fun name t ht => ?_⟩
  · exact Survey.document_eq_of_stages Survey.schemas_withoutHidden Survey.relations_withoutHidden
      Survey.columns_withoutHidden Survey.comments_withoutHidden Survey.uniqueness_withoutHidden
      Survey.foreignKeys_withoutHidden rfl
  · obtain ⟨-, r, schema, cs, hshows⟩ := Survey.get?_tables.mp ht
    exact hshows.schema_not_mem

open Catalog.Sample.Oids in
/-- An order archive hides behind the orders, and its key and its column go with it. -/
example :
    let s := ((({} : Sample).shop).relation archive "orders" 'v' [⟨"id", int4, true⟩]).snapshot
    (s.withoutHidden ["pg_catalog"]).namespaces.map NamespaceRow.name =
        ["public", "information_schema", "sales", "archive"] ∧
      (s.withoutHidden ["pg_catalog"]).classes.length + 1 = s.classes.length ∧
      (s.withoutHidden ["pg_catalog"]).attributes.length + 1 = s.attributes.length := by
  decide +kernel

end SchemaSurvey
