/-
  `Unread` — rows that a survey passes over.

  The queries for three of the tables carry a condition (`SystemTable.filter?`). It saves traffic and
  nothing else: a survey passes by itself over every row that the condition keeps back, and over
  others besides, such as dropped columns, types that are not usable, and relations without rows.
  So it makes no difference which of these rows are delivered (`Survey.survey_keep`), and a snapshot
  that was filled by hand is surveyed as one that was fetched (`resolve_fetched`).

  A row that is passed over has no effect at all, not even on another row of its oid. Each stage
  looks at a row's own letters before it looks at its oid, so nothing is assumed of oids.
-/
import SchemaSurvey.Catalog.Sample
import SchemaSurvey.Proofs.Survey.Dependence
import SchemaSurvey.Proofs.Survey.ExposureRule

namespace SchemaSurvey

open Catalog Survey

/-! ### Rows that are read -/

namespace Catalog

/-- Which rows of a snapshot to keep. -/
structure Selection where
  classes : ClassRow → Bool := fun _ => true
  types : TypeRow → Bool := fun _ => true
  attributes : AttributeRow → Bool := fun _ => true
  descriptions : DescriptionRow → Bool := fun _ => true
  constraints : ConstraintRow → Bool := fun _ => true
  procedures : ProcedureRow → Bool := fun _ => true

/-- The rows that the conditions of the queries let through. -/
def Selection.fetched : Selection where
  descriptions d := d.holder == relationHolder
  constraints c := ['p', 'u', 'f'].contains c.kind
  procedures p := p.kind == 'a'

/-- The rows that are fetched, of live columns, usable types and relations with rows only. -/
def Selection.read : Selection where
  __ := fetched
  classes c := ['r', 'v', 'm', 'f', 'p'].contains c.kind
  types t := t.isUsable
  attributes a := a.isLive

/-- Every row is kept that a survey reads. -/
structure Selection.KeepsRead (f : Selection) : Prop where
  classes : ∀ c, read.classes c = true → f.classes c = true
  types : ∀ t, read.types t = true → f.types t = true
  attributes : ∀ a, read.attributes a = true → f.attributes a = true
  descriptions : ∀ d, read.descriptions d = true → f.descriptions d = true
  constraints : ∀ c, read.constraints c = true → f.constraints c = true
  procedures : ∀ p, read.procedures p = true → f.procedures p = true

theorem Selection.keepsRead_read : read.KeepsRead :=
  ⟨fun _ => id, fun _ => id, fun _ => id, fun _ => id, fun _ => id, fun _ => id⟩

theorem Selection.keepsRead_fetched : fetched.KeepsRead :=
  ⟨fun _ _ => rfl, fun _ _ => rfl, fun _ _ => rfl, fun _ => id, fun _ => id, fun _ => id⟩

/-- The snapshot with the selected rows alone. -/
def Snapshot.keep (s : Snapshot) (f : Selection) : Snapshot where
  namespaces := s.namespaces
  classes := s.classes.filter f.classes
  types := s.types.filter f.types
  attributes := s.attributes.filter f.attributes
  descriptions := s.descriptions.filter f.descriptions
  constraints := s.constraints.filter f.constraints
  procedures := s.procedures.filter f.procedures
  aggregates := s.aggregates

end Catalog

/-! ### Stage by stage -/

namespace Survey

variable {f : Selection}

theorem ScalarType.ofRows_keep (hf : f.KeepsRead) (rows : List TypeRow) :
    ofRows (rows.filter f.types) = ofRows rows := by
  rw [ofRows, ofRows, filter_filter_of_imp]
  intro t _ husable
  exact hf.types t husable

theorem Relation.ofRows_keep (hf : f.KeepsRead) (rows : List ClassRow)
    (schemas : SortedMap Oid Schema) : ofRows (rows.filter f.classes) schemas = ofRows rows schemas := by
  rw [ofRows, ofRows, filterMap_filter_of_imp]
  intro c _ r hr
  obtain ⟨-, -, -, -, hletter⟩ := ofRow?_eq_some_iff.mp hr
  refine hf.classes c (List.contains_iff_mem.mpr ?_)
  exact RelationKind.exists_letter_iff.mp ⟨r.kind, hletter⟩

theorem Exposure.ofRelations_keep (hf : f.KeepsRead) (rows : List AttributeRow)
    (relations : SortedMap Oid Relation) (types : SortedMap Oid ScalarType) :
    ofRelations (rows.filter f.attributes) relations types = ofRelations rows relations types := by
  refine ofRelations_congr fun oid _ => filter_filter_of_imp fun a _ hread => ?_
  rw [Bool.and_eq_true] at hread
  exact hf.attributes a hread.2

theorem Comments.ofColumns_keep (hf : f.KeepsRead) (rows : List DescriptionRow)
    (columns : Columns) : ofColumns (rows.filter f.descriptions) columns = ofColumns rows columns :=
  ofColumns_filter fun d _ hholder _ => hf.descriptions d (beq_iff_eq.mpr hholder)

/-- A constraint of another kind is not even counted as dropped. -/
theorem Resolution.kind_mem_of_ne_ignored {columns : Columns} {c : ConstraintRow}
    (h : ofRow columns c ≠ .ignored) : c.kind ∈ ['p', 'u', 'f'] := by
  unfold ofRow at h
  split at h
  · split at h
    · rename_i hkind
      rw [Bool.or_eq_true, beq_iff_eq, beq_iff_eq] at hkind
      rcases hkind with hkind | hkind <;> simp [hkind]
    · split at h
      · rename_i hkind
        simp [beq_iff_eq.mp hkind]
      · exact absurd rfl h
  · exact absurd rfl h

theorem Constraints.ofRows_keep (hf : f.KeepsRead) (rows : List ConstraintRow)
    (columns : Columns) : ofRows (rows.filter f.constraints) columns = ofRows rows columns := by
  have hkept : ∀ c, Resolution.ofRow columns c ≠ .ignored → f.constraints c = true := fun c hc =>
    hf.constraints c (List.contains_iff_mem.mpr (Resolution.kind_mem_of_ne_ignored hc))
  have huniqueness : (ofRows (rows.filter f.constraints) columns).uniqueness =
      (ofRows rows columns).uniqueness :=
    uniqueness_filter fun c _ u hu => hkept c (by simp [hu])
  have hforeign : (ofRows (rows.filter f.constraints) columns).foreignKeys =
      (ofRows rows columns).foreignKeys :=
    foreignKeys_filter fun c _ k hk => hkept c (by simp [hk])
  have hdropped : (ofRows (rows.filter f.constraints) columns).dropped =
      (ofRows rows columns).dropped := by
    simp only [ofRows, List.count, List.countP_map, List.countP_filter]
    refine List.countP_congr fun c _ => ?_
    simp only [Function.comp_apply, Bool.and_eq_true, beq_iff_eq, and_iff_left_iff_imp]
    exact fun hc => hkept c (by simp [hc])
  cases hl : ofRows (rows.filter f.constraints) columns
  cases hr : ofRows rows columns
  simp_all

theorem Overload.qualifying_keep (hf : f.KeepsRead) (rows : List ProcedureRow)
    (aggregates : List AggregateRow) (types : SortedMap Oid ScalarType) :
    qualifying (rows.filter f.procedures) aggregates types = qualifying rows aggregates types := by
  rw [qualifying, qualifying, filterMap_filter_of_imp]
  intro p _ o ho
  exact hf.procedures p (ofRow?_eq_some_iff.mp ho).1

/-- **A survey passes over the rows that it does not read,** in all its stages. -/
theorem survey_keep (hf : f.KeepsRead) (s : Snapshot) (excluded : List String) :
    survey (s.keep f) excluded = survey s excluded := by
  simp only [survey, Snapshot.keep, ScalarType.ofRows_keep hf, Relation.ofRows_keep hf,
    Exposure.ofRelations_keep hf, Comments.ofColumns_keep hf, Constraints.ofRows_keep hf,
    Overload.qualifying_keep hf]

end Survey

/-- **The conditions of the queries are redundant.** The rows that they let through give the same
document, and the same events, as all rows. So do those of them that are about live columns, usable
types and relations with rows. -/
theorem resolve_fetched (s : Snapshot) (excluded : List String) :
    (s.keep .fetched).resolve excluded = s.resolve excluded ∧
      (s.keep .read).resolve excluded = s.resolve excluded ∧
      (survey (s.keep .fetched) excluded).events = (survey s excluded).events ∧
      (survey (s.keep .read) excluded).events = (survey s excluded).events := by
  have hfetched := Survey.survey_keep Selection.keepsRead_fetched s excluded
  have hread := Survey.survey_keep Selection.keepsRead_read s excluded
  exact ⟨congrArg Survey.document hfetched, congrArg Survey.document hread,
    congrArg Survey.events hfetched, congrArg Survey.events hread⟩

/-- A check constraint is not fetched. -/
example : ((({} : Sample).shop.check 60001 "customers_check" [1]).snapshot.keep .fetched).constraints =
    ({} : Sample).shop.snapshot.constraints := by decide

end SchemaSurvey
