/-
  `Locality` — how far a change of one relation reaches.

  Attributes, comments and constraints of all relations come in one list each, in any order. Two
  snapshots that differ only in the rows about one relation (`Snapshot.AgreeOutside`) give the same
  relations, and every other relation is exposed in both or in neither, with the same record
  (`resolve_agreeOutside`). What may differ elsewhere are the foreign keys that reference the
  changed relation, since they go when it is no longer exposed.

  Foreign keys are compared name by name, and a name is passed over if a constraint of that name
  references the changed relation. So nothing needs to be assumed of the names of constraints.
-/
import Mathlib
import SchemaSurvey.Catalog.Sample
import SchemaSurvey.Proofs.Survey.Record

namespace SchemaSurvey

open Catalog

/-- The snapshots differ at most in the attributes, comments and constraints of one relation. -/
structure Catalog.Snapshot.AgreeOutside (s s' : Snapshot) (changed : Oid) : Prop where
  namespaces : s.namespaces = s'.namespaces
  classes : s.classes = s'.classes
  types : s.types = s'.types
  attributes : s.attributes.filter (fun a => a.relation != changed) =
    s'.attributes.filter fun a => a.relation != changed
  descriptions :
    s.descriptions.filter (fun d => !(d.holder == Survey.relationHolder && d.object == changed)) =
      s'.descriptions.filter fun d => !(d.holder == Survey.relationHolder && d.object == changed)
  constraints : s.constraints.filter (fun c => c.relation != changed) =
    s'.constraints.filter fun c => c.relation != changed
  procedures : s.procedures = s'.procedures
  aggregates : s.aggregates = s'.aggregates

namespace Survey

variable {s s' : Snapshot} {excluded : List String} {changed oid : Oid}

/-- Every other relation has the same rows. -/
theorem sameRows_of_agreeOutside (h : s.AgreeOutside s' changed) (hne : oid ≠ changed) :
    s.SameRows s' oid := by
  have hother : ∀ i : Oid, (i == oid) = true → (i != changed) = true := fun i hi => by
    rw [beq_iff_eq] at hi
    rw [hi, bne_iff_ne]
    exact hne
  constructor
  · have hattributes := congrArg (List.filter fun a : AttributeRow => a.relation == oid) h.attributes
    rwa [filter_filter_of_imp fun a _ ha => hother _ ha,
      filter_filter_of_imp fun a _ ha => hother _ ha] at hattributes
  · have hdescriptions := congrArg
      (List.filter fun d : DescriptionRow => d.holder == relationHolder && d.object == oid)
      h.descriptions
    have hkept : ∀ d : DescriptionRow, (d.holder == relationHolder && d.object == oid) = true →
        (!(d.holder == relationHolder && d.object == changed)) = true := fun d hd => by
      rw [Bool.and_eq_true] at hd
      have hobject : (d.object == changed) = false := by simpa using hother _ hd.2
      rw [hobject, Bool.and_false, Bool.not_false]
    rwa [filter_filter_of_imp fun d _ hd => hkept d hd,
      filter_filter_of_imp fun d _ hd => hkept d hd] at hdescriptions
  · have hconstraints :=
      congrArg (List.filter fun c : ConstraintRow => c.relation == oid) h.constraints
    rwa [filter_filter_of_imp fun c _ hc => hother _ hc,
      filter_filter_of_imp fun c _ hc => hother _ hc] at hconstraints

/-- The choice among rivals does not look at what is attached to them. -/
theorem relations_of_agreeOutside (h : s.AgreeOutside s' changed) (excluded : List String) :
    (survey s excluded).relations = (survey s' excluded).relations := by
  simp only [survey, h.classes, h.namespaces]

/-- Every other relation has the same columns, if it has any. -/
theorem get?_columns_of_agreeOutside (h : s.AgreeOutside s' changed) (hne : oid ≠ changed)
    (excluded : List String) :
    (survey s excluded).columns.get? oid = (survey s' excluded).columns.get? oid :=
  get?_columns_congr h.types (by rw [relations_of_agreeOutside h])
    (sameRows_of_agreeOutside h hne)

/-- Every other relation has the same record, if it has one. -/
theorem sameButForeignKeys_of_agreeOutside (h : s.AgreeOutside s' changed) {r : Relation}
    (hr : (survey s excluded).relations.get? oid = some r) (hne : oid ≠ changed)
    {t t' : Document.Table} (ht : (s.resolve excluded).tables.get? r.name = some t)
    (ht' : (s'.resolve excluded).tables.get? r.name = some t') : t.SameButForeignKeys t' := by
  have hr' : (survey s' excluded).relations.get? oid = some r := by
    rw [← relations_of_agreeOutside h, hr]
  obtain ⟨schema, cs, hshows⟩ := shows_of_get?_tables hr ht
  obtain ⟨schema', cs', hshows'⟩ := shows_of_get?_tables hr' ht'
  have hschemas : (survey s excluded).schemas = (survey s' excluded).schemas := by
    simp only [survey, h.namespaces]
  have hschema : schema = schema' := by
    have hget := hshows.schema_eq
    rw [hschemas, hshows'.schema_eq] at hget
    exact (Option.some.inj hget).symm
  have hrows : s.SameRows s' r.oid := by
    rw [oid_of_get?_relations hr]
    exact sameRows_of_agreeOutside h hne
  exact hshows.sameButForeignKeys h.types hshows' rfl rfl (congrArg Schema.name hschema) hrows

/-- A foreign key of every other relation is the same, unless it references the changed one. -/
theorem get?_foreignKeys_of_agreeOutside (h : s.AgreeOutside s' changed) {r : Relation}
    (hr : (survey s excluded).relations.get? oid = some r) (hne : oid ≠ changed)
    {t t' : Document.Table} (ht : (s.resolve excluded).tables.get? r.name = some t)
    (ht' : (s'.resolve excluded).tables.get? r.name = some t') {name : String}
    (hname : ∀ c ∈ s.constraints, c.relation = oid → c.name = name →
      c.foreignRelation ≠ changed) : t.foreignKeys.get? name = t'.foreignKeys.get? name := by
  have hr' : (survey s' excluded).relations.get? oid = some r := by
    rw [← relations_of_agreeOutside h, hr]
  obtain ⟨schema, cs, hshows⟩ := shows_of_get?_tables hr ht
  obtain ⟨schema', cs', hshows'⟩ := shows_of_get?_tables hr' ht'
  rw [hshows.table_eq, hshows'.table_eq, tableOf, tableOf, oid_of_get?_relations hr]
  exact get?_foreignKeysOf_congr (relations_of_agreeOutside h excluded)
    (get?_columns_of_agreeOutside h hne excluded) (sameRows_of_agreeOutside h hne)
    fun c hc hrelation hc_name =>
      get?_columns_of_agreeOutside h (hname c hc hrelation hc_name) excluded

/-- Every other relation is exposed both times or neither time. -/
theorem contains_tables_of_agreeOutside (h : s.AgreeOutside s' changed) {r : Relation}
    (hr : (survey s excluded).relations.get? oid = some r) (hne : oid ≠ changed) :
    (s.resolve excluded).tables.contains r.name = true ↔
      (s'.resolve excluded).tables.contains r.name = true := by
  have hr' : (survey s' excluded).relations.get? oid = some r := by
    rw [← relations_of_agreeOutside h, hr]
  have hcolumns := get?_columns_of_agreeOutside h hne excluded
  calc (s.resolve excluded).tables.contains r.name = true
    _ ↔ (survey s excluded).columns.contains oid = true := contains_tables_iff hr
    _ ↔ (survey s' excluded).columns.contains oid = true := by
      rw [SortedMap.contains, SortedMap.contains, hcolumns]
    _ ↔ (s'.resolve excluded).tables.contains r.name = true := (contains_tables_iff hr').symm

/-- **A table that does not reference the changed relation is the same table.** -/
theorem table_of_agreeOutside (h : s.AgreeOutside s' changed) {r : Relation}
    (hr : (survey s excluded).relations.get? oid = some r) (hne : oid ≠ changed)
    (hforeign : ∀ c ∈ s.constraints, c.relation = oid → c.foreignRelation ≠ changed) :
    (s.resolve excluded).tables.get? r.name = (s'.resolve excluded).tables.get? r.name := by
  have hcontains := contains_tables_of_agreeOutside h hr hne
  rw [SortedMap.contains_iff, SortedMap.contains_iff] at hcontains
  cases ht : (s.resolve excluded).tables.get? r.name with
  | none =>
    cases ht' : (s'.resolve excluded).tables.get? r.name with
    | none => rfl
    | some t' =>
      obtain ⟨t, hsome⟩ := hcontains.mpr ⟨t', ht'⟩
      rw [ht] at hsome
      cases hsome
  | some t =>
    obtain ⟨t', ht'⟩ := hcontains.mp ⟨t, ht⟩
    have hkeys : t.foreignKeys = t'.foreignKeys := SortedMap.ext_get? fun name =>
      get?_foreignKeys_of_agreeOutside h hr hne ht ht' fun c hc hrelation _ =>
        hforeign c hc hrelation
    rw [ht', (sameButForeignKeys_of_agreeOutside h hr hne ht ht').eq_of_foreignKeys hkeys]

end Survey

/-- **A change of one relation stays with that relation** and the foreign keys that reference it.
Every other relation that is kept is exposed both times or neither time, with the same record, and
a foreign key of it is the same if it is not one that references the changed relation. So a table
that does not reference the changed relation is the same as a whole. Aggregates stay as they
were. -/
theorem resolve_agreeOutside (s s' : Snapshot) (changed : Oid) (h : s.AgreeOutside s' changed)
    (excluded : List String) :
    (survey s excluded).relations = (survey s' excluded).relations ∧
    (∀ oid r, (survey s excluded).relations.get? oid = some r → oid ≠ changed →
      ((s.resolve excluded).tables.contains r.name = true ↔
        (s'.resolve excluded).tables.contains r.name = true) ∧
      (∀ t t', (s.resolve excluded).tables.get? r.name = some t →
        (s'.resolve excluded).tables.get? r.name = some t' →
        t.SameButForeignKeys t' ∧
        ∀ name, (∀ c ∈ s.constraints, c.relation = oid → c.name = name →
          c.foreignRelation ≠ changed) → t.foreignKeys.get? name = t'.foreignKeys.get? name) ∧
      ((∀ c ∈ s.constraints, c.relation = oid → c.foreignRelation ≠ changed) →
        (s.resolve excluded).tables.get? r.name = (s'.resolve excluded).tables.get? r.name)) ∧
    (s.resolve excluded).aggregates = (s'.resolve excluded).aggregates := by
  refine ⟨Survey.relations_of_agreeOutside h excluded, fun oid r hr hne => ⟨?_, ?_, ?_⟩, ?_⟩
  · exact Survey.contains_tables_of_agreeOutside h hr hne
  · intro t t' ht ht'
    exact ⟨Survey.sameButForeignKeys_of_agreeOutside h hr hne ht ht',
      fun name hname => Survey.get?_foreignKeys_of_agreeOutside h hr hne ht ht' hname⟩
  · exact Survey.table_of_agreeOutside h hr hne
  · simp only [Snapshot.resolve, Survey.document, survey, h.types, h.procedures, h.aggregates]

open Catalog.Sample.Oids in
/-- A shop whose orders reference customers and regions, and whose customers have these columns
besides their own. -/
def regionalShop (columns : List AttributeRow) : Snapshot :=
  let b : Sample := ({} : Sample).shop
  let regions := b.nextOid
  let b := b.table publicSchema "regions" [⟨"id", int4, true⟩]
  let b := b.foreignKey 60004 "orders_region_fkey" [1] regions [1]
  { b.snapshot with attributes := columns ++ b.snapshot.attributes }

/-- The column of tags that hides the customers. -/
def tags : AttributeRow := ⟨60001, "tags", 4, Sample.Oids.textArray, false, false⟩

/-- A column of tags hides the customers. The orders only lose their key to the customers. -/
theorem resolve_regionalShop :
    (regionalShop []).AgreeOutside (regionalShop [tags]) 60001 ∧
      ((regionalShop []).resolve Sample.excluded).tables.keys = ["customers", "orders", "regions"] ∧
      ((regionalShop [tags]).resolve Sample.excluded).tables.keys = ["orders", "regions"] ∧
      ∃ t t', ((regionalShop []).resolve Sample.excluded).tables.get? "orders" = some t ∧
        ((regionalShop [tags]).resolve Sample.excluded).tables.get? "orders" = some t' ∧
        t.SameButForeignKeys t' ∧
        t.foreignKeys.get? "orders_region_fkey" = t'.foreignKeys.get? "orders_region_fkey" ∧
        t.foreignKeys.keys = ["orders_customer_id_fkey", "orders_region_fkey"] ∧
        t'.foreignKeys.keys = ["orders_region_fkey"] := by
  have hagree : (regionalShop []).AgreeOutside (regionalShop [tags]) 60001 :=
    ⟨rfl, rfl, rfl, by decide, rfl, rfl, rfl, rfl⟩
  have horders : ((survey (regionalShop []) Sample.excluded).relations.get? 60004).map
      (·.name) = some "orders" := by decide +kernel
  have hkeys : (((regionalShop []).resolve Sample.excluded).tables.get? "orders").map
      (·.foreignKeys.keys) = some ["orders_customer_id_fkey", "orders_region_fkey"] := by cbv
  have hkeys' : (((regionalShop [tags]).resolve Sample.excluded).tables.get? "orders").map
      (·.foreignKeys.keys) = some ["orders_region_fkey"] := by cbv
  obtain ⟨r, hr, hname⟩ := Option.map_eq_some_iff.mp horders
  obtain ⟨t, ht, ht_keys⟩ := Option.map_eq_some_iff.mp hkeys
  obtain ⟨t', ht', ht'_keys⟩ := Option.map_eq_some_iff.mp hkeys'
  obtain ⟨-, hothers, -⟩ :=
    resolve_agreeOutside (regionalShop []) (regionalShop [tags]) 60001 hagree Sample.excluded
  obtain ⟨-, hsame, -⟩ := hothers 60004 r hr (by decide)
  rw [hname] at hsame
  obtain ⟨hrecord, hforeign⟩ := hsame t t' ht ht'
  exact ⟨hagree, by decide +kernel, by decide +kernel, t, t', ht, ht', hrecord,
    hforeign "orders_region_fkey" (by decide +kernel), ht_keys, ht'_keys⟩

end SchemaSurvey
