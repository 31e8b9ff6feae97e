/-
  `Renumbering` — the document does not depend on the numbers of the oids.

  To dump a database and restore it gives every object a new oid. Oids are the keys of most maps of
  a survey, constraints are sorted by them, and rivals that agree otherwise are told apart by them.
  None of this shows in the document: each stage of the renumbered catalog is the renumbered stage
  of the old one (the `_renumbered` lemmas), and what the document keeps of the stages are names.

  The oids of schemas are the exception, for they rank relations of one name. New oids of schemas
  have to keep the order of the old ones. Of constraints, names have to be distinct in each
  relation; otherwise the one with the greater oid is shown.
-/
import Mathlib.Data.FinEnum
import Mathlib.Data.Fintype.Card
import SchemaSurvey.Catalog.Sample
import SchemaSurvey.Proofs.Survey.Record
import SchemaSurvey.Proofs.Survey.ReturnTypes

namespace SchemaSurvey

open Survey

/-! ### New oids -/

namespace Catalog

/-- New oids for the objects of a catalog. Different objects of one kind get different oids. -/
structure Renumbering where
  schema : Oid ↪ Oid
  relation : Oid ↪ Oid
  type : Oid ↪ Oid
  /-- No type stays no type. -/
  type_zero : type 0 = 0
  constraint : Oid ↪ Oid
  procedure : Oid ↪ Oid

namespace Renumbering

variable (ρ : Renumbering)

def onNamespace (n : NamespaceRow) : NamespaceRow := { n with oid := ρ.schema n.oid }

def onClass (c : ClassRow) : ClassRow :=
  { c with oid := ρ.relation c.oid, schema := ρ.schema c.schema }

def onType (t : TypeRow) : TypeRow :=
  { t with oid := ρ.type t.oid, schema := ρ.schema t.schema, element := ρ.type t.element }

def onAttribute (a : AttributeRow) : AttributeRow :=
  { a with relation := ρ.relation a.relation, type := ρ.type a.type }

/-- Comments on other objects than relations keep their oid. -/
def onDescription (d : DescriptionRow) : DescriptionRow :=
  if d.holder = relationHolder then { d with object := ρ.relation d.object } else d

def onConstraint (c : ConstraintRow) : ConstraintRow :=
  { c with
    oid := ρ.constraint c.oid
    schema := ρ.schema c.schema
    relation := ρ.relation c.relation
    foreignRelation := ρ.relation c.foreignRelation }

def onProcedure (p : ProcedureRow) : ProcedureRow :=
  { p with
    oid := ρ.procedure p.oid
    schema := ρ.schema p.schema
    argumentTypes := p.argumentTypes.map ρ.type
    returnType := ρ.type p.returnType }

def onAggregate (a : AggregateRow) : AggregateRow :=
  { a with procedure := ρ.procedure a.procedure }

/-! Stages of a survey name objects by oid as well. -/

def onSchema (x : Schema) : Schema := { x with oid := ρ.schema x.oid }

def onScalarType (t : ScalarType) : ScalarType :=
  { t with oid := ρ.type t.oid, schema := ρ.schema t.schema }

def onRelation (r : Relation) : Relation :=
  { r with oid := ρ.relation r.oid, schema := ρ.schema r.schema }

def onColumn (c : Survey.Column) : Survey.Column :=
  { c with relation := ρ.relation c.relation, typeOid := ρ.type c.typeOid }

def onUniqueness (u : Uniqueness) : Uniqueness :=
  { u with
    oid := ρ.constraint u.oid
    schema := ρ.schema u.schema
    relation := ρ.relation u.relation }

def onForeignKey (f : Survey.ForeignKey) : Survey.ForeignKey :=
  { f with
    oid := ρ.constraint f.oid
    schema := ρ.schema f.schema
    relation := ρ.relation f.relation
    foreignRelation := ρ.relation f.foreignRelation }

def onResolution : Resolution → Resolution
  | .ignored => .ignored
  | .dropped => .dropped
  | .unique u => .unique (ρ.onUniqueness u)
  | .foreign f => .foreign (ρ.onForeignKey f)

def onOverload (o : Overload) : Overload :=
  { o with oid := ρ.procedure o.oid, schema := ρ.schema o.schema }

end Renumbering

/-- The same catalog under new oids. -/
def Snapshot.renumbered (s : Snapshot) (ρ : Renumbering) : Snapshot where
  namespaces := s.namespaces.map ρ.onNamespace
  classes := s.classes.map ρ.onClass
  types := s.types.map ρ.onType
  attributes := s.attributes.map ρ.onAttribute
  descriptions := s.descriptions.map ρ.onDescription
  constraints := s.constraints.map ρ.onConstraint
  procedures := s.procedures.map ρ.onProcedure
  aggregates := s.aggregates.map ρ.onAggregate

end Catalog

namespace Survey

open Catalog

variable (ρ : Renumbering)

/-! ### Schemas and types -/

theorem Schema.get?_ofRows_renumbered (rows : List NamespaceRow) (excluded : List String)
    (oid : Oid) : (ofRows (rows.map ρ.onNamespace) excluded).get? (ρ.schema oid) =
      ((ofRows rows excluded).get? oid).map ρ.onSchema := by
  rw [ofRows, List.filter_map, List.map_map, ofRows, ← SortedMap.get?_ofList_map ρ.schema.injective,
    List.map_map]
  rfl

theorem isUsable_renumbered (t : TypeRow) : (ρ.onType t).isUsable = t.isUsable := by
  have helement : (ρ.type t.element != 0) = (t.element != 0) := by
    rw [bne, ← ρ.type_zero, ρ.type.injective.beq_eq, ρ.type_zero, bne]
  rw [TypeRow.isUsable, TypeRow.isArray, TypeRow.isUsable, TypeRow.isArray, ← helement]
  rfl

theorem ScalarType.get?_ofRows_renumbered (rows : List TypeRow) (oid : Oid) :
    (ofRows (rows.map ρ.onType)).get? (ρ.type oid) =
      ((ofRows rows).get? oid).map ρ.onScalarType := by
  have husable : TypeRow.isUsable ∘ ρ.onType = TypeRow.isUsable := funext (isUsable_renumbered ρ)
  rw [ofRows, List.filter_map, husable, List.map_map, ofRows,
    ← SortedMap.get?_ofList_map ρ.type.injective, List.map_map]
  rfl

/-! ### Relations -/

namespace Relation

variable {ρ : Renumbering} {rows : List ClassRow} {schemas schemas' : SortedMap Oid Schema}

theorem ofRow?_renumbered
    (hschemas : ∀ oid, schemas'.contains (ρ.schema oid) = schemas.contains oid) (row : ClassRow) :
    ofRow? schemas' (ρ.onClass row) = (ofRow? schemas row).map ρ.onRelation := by
  have hlisted : schemas'.contains (ρ.onClass row).schema = schemas.contains row.schema :=
    hschemas row.schema
  rw [ofRow?, ofRow?, hlisted]
  split
  · rw [Option.map_map]
    rfl
  · rfl

theorem candidates_renumbered
    (hschemas : ∀ oid, schemas'.contains (ρ.schema oid) = schemas.contains oid) :
    candidates (rows.map ρ.onClass) schemas' = (candidates rows schemas).map ρ.onRelation := by
  rw [candidates, candidates, List.filterMap_map, List.map_filterMap]
  exact List.filterMap_congr fun row _ => ofRow?_renumbered hschemas row

/-- Rivals stay in order, since two of them differ before their oids are compared. -/
theorem isLE_order_renumbered {r s : Relation} (hname : r.name = s.name)
    (hschemas : r.schema < s.schema → ρ.schema r.schema < ρ.schema s.schema)
    (hdistinct : r.schema = s.schema → r.kind = s.kind → r = s)
    (h : (order r s).isLE = true) : (order (ρ.onRelation r) (ρ.onRelation s)).isLE = true := by
  have hname_eq : compare r.name s.name = .eq := by
    rw [hname]
    exact Std.ReflCmp.compare_self
  have hname_eq' : compare (ρ.onRelation r).name (ρ.onRelation s).name = .eq := hname_eq
  rw [order, hname_eq, Ordering.eq_then, Ordering.isLE_then_iff_or] at h
  rcases h with hlt | ⟨hschema, hrest⟩
  · have hschema_lt : compare (ρ.onRelation r).schema (ρ.onRelation s).schema = .lt :=
      Std.compare_eq_lt.mpr (hschemas (Std.compare_eq_lt.mp hlt))
    rw [order, hname_eq', Ordering.eq_then, hschema_lt]
    rfl
  · have hschema : r.schema = s.schema := Std.LawfulEqOrd.eq_of_compare hschema
    rcases Ordering.isLE_then_iff_or.mp hrest with hkind_lt | ⟨hkind, -⟩
    · have hschema_eq : compare (ρ.onRelation r).schema (ρ.onRelation s).schema = .eq := by
        rw [Renumbering.onRelation, Renumbering.onRelation, hschema]
        exact Std.ReflCmp.compare_self
      have hkind_lt' : compare (ρ.onRelation r).kind.letter (ρ.onRelation s).kind.letter = .lt :=
        hkind_lt
      rw [order, hname_eq', Ordering.eq_then, hschema_eq, Ordering.eq_then, hkind_lt']
      rfl
    · have hkind : r.kind = s.kind :=
        RelationKind.letter_injective (Std.LawfulEqOrd.eq_of_compare hkind)
      rw [hdistinct hschema hkind]
      exact isLE_self

/-- **The same rivals win.** -/
theorem leastByName_renumbered {l : List Relation}
    (hschemas : ∀ r ∈ l, ∀ s ∈ l, r.schema < s.schema → ρ.schema r.schema < ρ.schema s.schema)
    (hdistinct : ∀ r ∈ l, ∀ s ∈ l, r.name = s.name → r.schema = s.schema → r.kind = s.kind →
      r = s) : leastByName (l.map ρ.onRelation) = (leastByName l).map fun _ => ρ.onRelation := by
  apply SortedMap.ext_get?
  intro name
  have hold := isChoice_leastByName l name
  have hmapped : IsChoice order (l.map ρ.onRelation) (fun r => r.name = name)
      (((leastByName l).get? name).map ρ.onRelation) := by
    refine hold.map (fun _ _ => Iff.rfl) fun r hr s hs hr_name hs_name hle => ?_
    have hname : r.name = s.name := hr_name.trans hs_name.symm
    exact isLE_order_renumbered hname (hschemas r hr s hs) (hdistinct r hr s hs hname) hle
  rw [SortedMap.get?_map]
  exact (isChoice_leastByName _ name).unique hmapped

theorem get?_ofRows_renumbered
    (hschemas : ∀ oid, schemas'.contains (ρ.schema oid) = schemas.contains oid)
    (hincreasing : ∀ r ∈ candidates rows schemas, ∀ s ∈ candidates rows schemas,
      r.schema < s.schema → ρ.schema r.schema < ρ.schema s.schema)
    (hdistinct : (rows.map fun c => (c.name, c.schema, c.kind)).Nodup) (oid : Oid) :
    (ofRows (rows.map ρ.onClass) schemas').get? (ρ.relation oid) =
      ((ofRows rows schemas).get? oid).map ρ.onRelation := by
  have hleast : leastByName ((candidates rows schemas).map ρ.onRelation) =
      (leastByName (candidates rows schemas)).map fun _ => ρ.onRelation := by
    refine leastByName_renumbered hincreasing fun r hr s hs hname hschema hkind => ?_
    obtain ⟨c, hc, hcr⟩ := mem_candidates.mp hr
    obtain ⟨d, hd, hds⟩ := mem_candidates.mp hs
    obtain ⟨-, -, hr_schema, hr_name, hr_kind⟩ := ofRow?_eq_some_iff.mp hcr
    obtain ⟨-, -, hs_schema, hs_name, hs_kind⟩ := ofRow?_eq_some_iff.mp hds
    have hcd : c = d := by
      refine List.inj_on_of_nodup_map hdistinct hc hd ?_
      rw [← hr_schema, ← hr_name, ← hr_kind, ← hs_schema, ← hs_name, ← hs_kind, hname, hschema,
        hkind]
    rw [hcd, hds] at hcr
    exact (Option.some.inj hcr).symm
  have hcandidates : (rows.map ρ.onClass).filterMap (ofRow? schemas') =
      (candidates rows schemas).map ρ.onRelation := candidates_renumbered hschemas
  rw [ofRows, hcandidates, hleast, SortedMap.values_map, List.map_map, ofRows,
    ← SortedMap.get?_ofList_map ρ.relation.injective, List.map_map]
  rfl

end Relation

/-! ### Columns -/

section

variable {ρ : Renumbering} {types types' : SortedMap Oid ScalarType}

theorem liveRows_renumbered (rows : List AttributeRow) (oid : Oid) :
    liveRows (rows.map ρ.onAttribute) (ρ.relation oid) =
      (liveRows rows oid).map ρ.onAttribute := by
  have hown : (fun a : AttributeRow => a.relation == ρ.relation oid && a.isLive) ∘ ρ.onAttribute =
      fun a => a.relation == oid && a.isLive := by
    funext a
    exact congrArg (· && a.isLive) ρ.relation.injective.beq_eq
  rw [liveRows, List.filter_map, hown, liveRows]

variable (htypes : ∀ oid, types'.get? (ρ.type oid) = (types.get? oid).map ρ.onScalarType)

include htypes

theorem Column.ofRow?_renumbered (a : AttributeRow) :
    ofRow? types' (ρ.onAttribute a) = (ofRow? types a).map ρ.onColumn := by
  have htype : types'.get? (ρ.onAttribute a).type = (types.get? a.type).map ρ.onScalarType :=
    htypes a.type
  rw [ofRow?, htype, ofRow?, Option.map_map, Option.map_map]
  rfl

theorem Exposure.columns?_ofRows_renumbered (live : List AttributeRow) :
    (ofRows types' (live.map ρ.onAttribute)).columns? =
      (ofRows types live).columns?.map (List.map ρ.onColumn) := by
  have hcontains : (fun a : AttributeRow => !types'.contains a.type) ∘ ρ.onAttribute =
      fun a => !types.contains a.type := by
    funext a
    show (!(types'.get? (ρ.type a.type)).isSome) = !(types.get? a.type).isSome
    rw [htypes, Option.isSome_map]
  have hcolumns : (live.map ρ.onAttribute).filterMap (Column.ofRow? types') =
      (live.filterMap (Column.ofRow? types)).map ρ.onColumn := by
    rw [List.filterMap_map, List.map_filterMap]
    exact List.filterMap_congr fun a _ => Column.ofRow?_renumbered htypes a
  rw [ofRows, List.find?_map, hcontains, hcolumns, ofRows]
  cases live.find? fun a => !types.contains a.type with
  | some a => rfl
  | none =>
    cases live.filterMap (Column.ofRow? types) with
    | nil => rfl
    | cons c cs =>
      have hsort : ((c :: cs).mergeSort fun a b => a.number ≤ b.number).map ρ.onColumn =
          ((c :: cs).map ρ.onColumn).mergeSort fun a b => a.number ≤ b.number :=
        List.map_mergeSort fun _ _ _ _ => rfl
      exact congrArg some hsort.symm

theorem Columns.get?_ofExposures_renumbered {relations relations' : SortedMap Oid Relation}
    (hrelations : ∀ oid, relations'.get? (ρ.relation oid) =
      (relations.get? oid).map ρ.onRelation) (rows : List AttributeRow) (oid : Oid) :
    (ofExposures (Exposure.ofRelations (rows.map ρ.onAttribute) relations' types')).get?
        (ρ.relation oid) =
      ((ofExposures (Exposure.ofRelations rows relations types)).get? oid).map
        (List.map ρ.onColumn) := by
  simp only [ofExposures, Exposure.ofRelations, SortedMap.get?_filterMap, SortedMap.get?_map,
    hrelations, liveRows_renumbered]
  cases relations.get? oid with
  | none => rfl
  | some r => exact Exposure.columns?_ofRows_renumbered htypes _

end

/-! ### Comments -/

section

variable {ρ : Renumbering} {columns columns' : Columns}

theorem lastComment?_renumbered (rows : List DescriptionRow) (oid : Oid) (part : Int32) :
    lastComment? (rows.map ρ.onDescription) (ρ.relation oid) part =
      lastComment? rows oid part := by
  have hread : (fun d : DescriptionRow => d.holder == relationHolder &&
      d.object == ρ.relation oid && d.part == part) ∘ ρ.onDescription =
        fun d => d.holder == relationHolder && d.object == oid && d.part == part := by
    funext d
    by_cases hholder : d.holder = relationHolder
    · have hobject : (ρ.relation d.object == ρ.relation oid) = (d.object == oid) :=
        ρ.relation.injective.beq_eq
      simp only [Function.comp_apply, Renumbering.onDescription, if_pos hholder, hobject]
    · simp only [Function.comp_apply, Renumbering.onDescription, if_neg hholder,
        beq_eq_false_iff_ne.mpr hholder, Bool.false_and]
  have htext : ∀ d : DescriptionRow, (ρ.onDescription d).text = d.text := by
    intro d
    rw [Renumbering.onDescription]
    split <;> rfl
  rw [lastComment?, List.filter_map, hread, List.getLast?_map, Option.map_map, lastComment?]
  exact congrArg (Option.map · _) (funext htext)

variable (hcolumns : ∀ oid, columns'.get? (ρ.relation oid) =
  (columns.get? oid).map (List.map ρ.onColumn))

include hcolumns

theorem Comments.get?_ofColumns_renumbered (rows : List DescriptionRow) (oid : Oid) :
    (ofColumns (rows.map ρ.onDescription) columns').get? (ρ.relation oid) =
      (ofColumns rows columns).get? oid := by
  rw [ofColumns, ofColumns, SortedMap.get?_map, SortedMap.get?_map, hcolumns, Option.map_map]
  refine congrArg (Option.map · _) (funext fun cs => ?_)
  simp only [Function.comp_apply, ofRows, lastComment?_renumbered, List.filterMap_map]
  rfl

/-! ### Constraints -/

theorem Columns.names?_renumbered (oid : Oid) (numbers : List Int16) :
    columns'.names? (ρ.relation oid) numbers = columns.names? oid numbers := by
  have hcolumn : ∀ number, (columns'.column? (ρ.relation oid) number).map Column.name =
      (columns.column? oid number).map Column.name := by
    intro number
    rw [column?, column?, hcolumns]
    cases columns.get? oid with
    | none => rfl
    | some cs =>
      rw [Option.map_some, Option.bind_some, Option.bind_some, List.find?_map, Option.map_map]
      rfl
  simp only [names?, hcolumn]

theorem Columns.contains_renumbered (oid : Oid) :
    columns'.contains (ρ.relation oid) = columns.contains oid := by
  rw [SortedMap.contains, hcolumns, Option.isSome_map, SortedMap.contains]

namespace Resolution

theorem ofUnique_renumbered (c : ConstraintRow) :
    ofUnique columns' (ρ.onConstraint c) = ρ.onResolution (ofUnique columns c) := by
  have hnames : columns'.names? (ρ.onConstraint c).relation (ρ.onConstraint c).key =
      columns.names? c.relation c.key := Columns.names?_renumbered hcolumns _ _
  rw [ofUnique, ofUnique, hnames]
  cases columns.names? c.relation c.key <;> rfl

theorem ofForeign_renumbered (c : ConstraintRow) :
    ofForeign columns' (ρ.onConstraint c) = ρ.onResolution (ofForeign columns c) := by
  have hcontains : columns'.contains (ρ.onConstraint c).foreignRelation =
      columns.contains c.foreignRelation := Columns.contains_renumbered hcolumns _
  have hnames : columns'.names? (ρ.onConstraint c).relation (ρ.onConstraint c).key =
      columns.names? c.relation c.key := Columns.names?_renumbered hcolumns _ _
  have hforeign : columns'.names? (ρ.onConstraint c).foreignRelation
      (ρ.onConstraint c).foreignKey = columns.names? c.foreignRelation c.foreignKey :=
    Columns.names?_renumbered hcolumns _ _
  rw [ofForeign, ofForeign, hcontains, hnames, hforeign, apply_ite ρ.onResolution]
  cases columns.names? c.relation c.key with
  | none => rfl
  | some names => cases columns.names? c.foreignRelation c.foreignKey <;> rfl

theorem ofRow_renumbered (c : ConstraintRow) :
    ofRow columns' (ρ.onConstraint c) = ρ.onResolution (ofRow columns c) := by
  have hcontains : columns'.contains (ρ.onConstraint c).relation = columns.contains c.relation :=
    Columns.contains_renumbered hcolumns _
  rw [ofRow, ofRow, hcontains, ofUnique_renumbered hcolumns, ofForeign_renumbered hcolumns,
    apply_ite ρ.onResolution, apply_ite ρ.onResolution, apply_ite ρ.onResolution]
  rfl

end Resolution

namespace Constraints

variable {rows : List ConstraintRow}

/-- Every constraint resolves as before, to its record under new oids. -/
theorem filterMap_resolved_renumbered {α : Type} {pick : Resolution → Option α} {f : α → α}
    (hpick : ∀ r, pick (ρ.onResolution r) = (pick r).map f) :
    ((rows.map ρ.onConstraint).map (Resolution.ofRow columns')).filterMap pick =
      ((rows.map (Resolution.ofRow columns)).filterMap pick).map f := by
  have hresolved : (rows.map ρ.onConstraint).map (Resolution.ofRow columns') =
      (rows.map (Resolution.ofRow columns)).map ρ.onResolution := by
    rw [List.map_map, List.map_map]
    exact List.map_congr_left fun c _ => Resolution.ofRow_renumbered hcolumns c
  rw [hresolved, List.filterMap_map, List.map_filterMap]
  exact List.filterMap_congr fun r _ => hpick r

theorem uniqueness_renumbered :
    ((ofRows rows columns).uniqueness.map ρ.onUniqueness).Perm
      (ofRows (rows.map ρ.onConstraint) columns').uniqueness := by
  have hpick : ∀ r, (ρ.onResolution r).unique? = r.unique?.map ρ.onUniqueness := by
    rintro (_ | _ | _ | _) <;> rfl
  rw [ofRows, ofRows, filterMap_resolved_renumbered hcolumns hpick]
  exact ((List.mergeSort_perm _ _).map _).trans (List.mergeSort_perm _ _).symm

theorem foreignKeys_renumbered :
    ((ofRows rows columns).foreignKeys.map ρ.onForeignKey).Perm
      (ofRows (rows.map ρ.onConstraint) columns').foreignKeys := by
  have hpick : ∀ r, (ρ.onResolution r).foreign? = r.foreign?.map ρ.onForeignKey := by
    rintro (_ | _ | _ | _) <;> rfl
  rw [ofRows, ofRows, filterMap_resolved_renumbered hcolumns hpick]
  exact ((List.mergeSort_perm _ _).map _).trans (List.mergeSort_perm _ _).symm

end Constraints

end

/-! ### Aggregates -/

namespace Overload

variable {ρ : Renumbering} {types types' : SortedMap Oid ScalarType}

theorem singleArgument?_renumbered (p : ProcedureRow) :
    (ρ.onProcedure p).singleArgument? = p.singleArgument?.map ρ.type := by
  rw [ProcedureRow.singleArgument?, ProcedureRow.singleArgument?, Renumbering.onProcedure]
  cases p.argumentTypes with
  | nil => rfl
  | cons argument rest =>
    cases rest with
    | nil => exact (apply_ite (Option.map ρ.type) _ (some argument) none).symm
    | cons _ _ => rfl

theorem ofRow?_renumbered {direct direct' : SortedMap Oid Int16}
    (htypes : ∀ oid, types'.get? (ρ.type oid) = (types.get? oid).map ρ.onScalarType)
    (hdirect : ∀ oid, direct'.get? (ρ.procedure oid) = direct.get? oid) (p : ProcedureRow) :
    ofRow? direct' types' (ρ.onProcedure p) = (ofRow? direct types p).map ρ.onOverload := by
  have hdirect : direct'.get? (ρ.onProcedure p).oid = direct.get? p.oid := hdirect p.oid
  have hresult : types'.get? (ρ.onProcedure p).returnType =
      (types.get? p.returnType).map ρ.onScalarType := htypes p.returnType
  rw [ofRow?, ofRow?, hdirect, singleArgument?_renumbered, hresult, apply_ite (Option.map _)]
  cases p.singleArgument? with
  | none => rfl
  | some argument =>
    simp only [Option.map_some, Option.bind_eq_bind, Option.bind_some, htypes]
    cases types.get? argument with
    | none => rfl
    | some _ => cases types.get? p.returnType <;> rfl

theorem qualifying_renumbered
    (htypes : ∀ oid, types'.get? (ρ.type oid) = (types.get? oid).map ρ.onScalarType)
    (procedures : List ProcedureRow) (aggregates : List AggregateRow) :
    qualifying (procedures.map ρ.onProcedure) (aggregates.map ρ.onAggregate) types' =
      (qualifying procedures aggregates types).map ρ.onOverload := by
  have hdirect : ∀ oid, (SortedMap.ofList ((aggregates.map ρ.onAggregate).map fun a =>
      (a.procedure, a.directArguments))).get? (ρ.procedure oid) =
        (SortedMap.ofList (aggregates.map fun a => (a.procedure, a.directArguments))).get? oid := by
    intro oid
    have hrenamed := SortedMap.get?_ofList_map ρ.procedure.injective id
      (aggregates.map fun a => (a.procedure, a.directArguments)) oid
    rw [Option.map_id, id, List.map_map] at hrenamed
    rw [List.map_map, ← hrenamed]
    rfl
  rw [qualifying, qualifying, List.filterMap_map, List.map_filterMap]
  exact List.filterMap_congr fun p _ => ofRow?_renumbered htypes hdirect p

end Overload

end Survey

namespace Survey

open Catalog Survey

variable {s : Snapshot} {ρ : Renumbering} {excluded : List String} {oid : Oid}

/-! ### The surveys of the two catalogs -/

/-- The second survey is the first one under new oids, as far as tables are concerned. -/
structure Renumbers (ρ : Renumbering) (v v' : Survey) : Prop where
  schemas : ∀ oid, v'.schemas.get? (ρ.schema oid) = (v.schemas.get? oid).map ρ.onSchema
  relations : ∀ oid, v'.relations.get? (ρ.relation oid) = (v.relations.get? oid).map ρ.onRelation
  columns : ∀ oid, v'.columns.get? (ρ.relation oid) =
    (v.columns.get? oid).map (List.map ρ.onColumn)
  comments : ∀ oid, v'.comments.get? (ρ.relation oid) = v.comments.get? oid
  uniqueness : (v.constraints.uniqueness.map ρ.onUniqueness).Perm v'.constraints.uniqueness
  foreignKeys : (v.constraints.foreignKeys.map ρ.onForeignKey).Perm v'.constraints.foreignKeys

/-- **Each stage of the renumbered catalog is the renumbered stage.** -/
theorem renumbers_survey
    (hincreasing : ∀ n ∈ s.namespaces, ∀ m ∈ s.namespaces, n.oid < m.oid →
      ρ.schema n.oid < ρ.schema m.oid)
    (hclasses : (s.classes.map fun c => (c.name, c.schema, c.kind)).Nodup) :
    Renumbers ρ (survey s excluded) (survey (s.renumbered ρ) excluded) := by
  have hschemas := Schema.get?_ofRows_renumbered ρ s.namespaces excluded
  have htypes := ScalarType.get?_ofRows_renumbered ρ s.types
  have hlisted : ∀ oid, (Schema.ofRows (s.namespaces.map ρ.onNamespace) excluded).contains
      (ρ.schema oid) = (Schema.ofRows s.namespaces excluded).contains oid := by
    intro oid
    rw [SortedMap.contains, hschemas, Option.isSome_map, SortedMap.contains]
  have hrelations : ∀ oid, (Relation.ofRows (s.classes.map ρ.onClass)
      (Schema.ofRows (s.namespaces.map ρ.onNamespace) excluded)).get? (ρ.relation oid) =
        ((Relation.ofRows s.classes (Schema.ofRows s.namespaces excluded)).get? oid).map
          ρ.onRelation := by
    refine Relation.get?_ofRows_renumbered hlisted (fun q hq r hr hlt => ?_) hclasses
    -- Candidates lie in schemas of the catalog.
    have schema_of : ∀ r ∈ Relation.candidates s.classes (Schema.ofRows s.namespaces excluded),
        ∃ n ∈ s.namespaces, n.oid = r.schema := by
      intro r hr
      obtain ⟨row, -, hrow⟩ := Relation.mem_candidates.mp hr
      obtain ⟨hcontains, -, hschema, -⟩ := Relation.ofRow?_eq_some_iff.mp hrow
      obtain ⟨n, hn, hoid, -⟩ := Schema.contains_ofRows.mp hcontains
      exact ⟨n, hn, hoid.trans hschema.symm⟩
    obtain ⟨n, hn, hn_oid⟩ := schema_of q hq
    obtain ⟨m, hm, hm_oid⟩ := schema_of r hr
    rw [← hn_oid, ← hm_oid] at hlt ⊢
    exact hincreasing n hn m hm hlt
  have hcolumns := Columns.get?_ofExposures_renumbered htypes hrelations s.attributes
  exact ⟨hschemas, hrelations, hcolumns,
    Comments.get?_ofColumns_renumbered hcolumns s.descriptions,
    Constraints.uniqueness_renumbered hcolumns, Constraints.foreignKeys_renumbered hcolumns⟩

/-! ### Tables -/

section

variable {v' : Survey} (h : Renumbers ρ (survey s excluded) v')
  (hnames : (s.constraints.map fun c => (c.relation, c.name)).Nodup)

include h

theorem Renumbers.columnEntry_eq (c : Survey.Column) :
    v'.columnEntry (ρ.onColumn c) = (survey s excluded).columnEntry c := by
  have hcomment : Comments.column? v'.comments (ρ.onColumn c).relation (ρ.onColumn c).number =
      Comments.column? (survey s excluded).comments c.relation c.number :=
    congrArg (Option.bind · _) (h.comments c.relation)
  rw [columnEntry, hcomment, columnEntry]
  rfl

theorem Renumbers.foreignItem?_eq (f : Survey.ForeignKey) :
    v'.foreignItem? (ρ.onForeignKey f) = (survey s excluded).foreignItem? f := by
  have hforeign : v'.relations.get? (ρ.onForeignKey f).foreignRelation =
      ((survey s excluded).relations.get? f.foreignRelation).map ρ.onRelation :=
    h.relations f.foreignRelation
  rw [foreignItem?, hforeign, Option.map_map, foreignItem?]
  rfl

include hnames

/-- Constraints are stored by name in the order of their oids. Their names are distinct, so that
order is lost. -/
theorem Renumbers.uniquenessOf_eq (oid : Oid) :
    v'.uniquenessOf (ρ.relation oid) = (survey s excluded).uniquenessOf oid := by
  have hown : (fun u : Uniqueness => u.relation == ρ.relation oid) ∘ ρ.onUniqueness =
      fun u => u.relation == oid :=
    funext fun _ => ρ.relation.injective.beq_eq
  have hperm := (h.uniqueness.filter fun u => u.relation == ρ.relation oid).map fun u =>
    (u.name, u.columns)
  rw [List.filter_map, hown, List.map_map] at hperm
  exact (SortedMap.ofList_perm (consistent_uniquenessOf hnames) hperm).symm

theorem Renumbers.foreignKeysOf_eq (oid : Oid) :
    v'.foreignKeysOf (ρ.relation oid) = (survey s excluded).foreignKeysOf oid := by
  have hown : (fun f : Survey.ForeignKey => f.relation == ρ.relation oid) ∘ ρ.onForeignKey =
      fun f => f.relation == oid :=
    funext fun _ => ρ.relation.injective.beq_eq
  have hitem : v'.foreignItem? ∘ ρ.onForeignKey = (survey s excluded).foreignItem? :=
    funext h.foreignItem?_eq
  have hperm := (h.foreignKeys.filter fun f => f.relation == ρ.relation oid).filterMap
    v'.foreignItem?
  rw [List.filter_map, hown, List.filterMap_map, hitem] at hperm
  exact (SortedMap.ofList_perm (consistent_foreignKeysOf hnames) hperm).symm

theorem Renumbers.tableOf_eq (r : Relation) (schema : Schema) (cs : List Survey.Column) :
    v'.tableOf (ρ.onRelation r) (ρ.onSchema schema) (cs.map ρ.onColumn) =
      (survey s excluded).tableOf r schema cs := by
  have hcomment : Comments.relation? v'.comments (ρ.onRelation r).oid =
      Comments.relation? (survey s excluded).comments r.oid :=
    congrArg (Option.bind · _) (h.comments r.oid)
  have huniqueness : v'.uniquenessOf (ρ.onRelation r).oid =
      (survey s excluded).uniquenessOf r.oid := h.uniquenessOf_eq hnames r.oid
  have hforeign : v'.foreignKeysOf (ρ.onRelation r).oid =
      (survey s excluded).foreignKeysOf r.oid := h.foreignKeysOf_eq hnames r.oid
  have hentries : (cs.map ρ.onColumn).map (fun c => (c.name, v'.columnEntry c)) =
      cs.map fun c => (c.name, (survey s excluded).columnEntry c) := by
    rw [List.map_map]
    exact List.map_congr_left fun c _ => congrArg (Prod.mk c.name) (h.columnEntry_eq c)
  rw [tableOf, hcomment, huniqueness, hforeign, hentries, tableOf]
  rfl

/-- What is shown under new oids was shown under the old ones. -/
theorem Renumbers.shows_iff {t : Document.Table} :
    (∃ r schema cs, v'.Shows t r schema cs) ↔
      ∃ r schema cs, (survey s excluded).Shows t r schema cs := by
  constructor
  · rintro ⟨r', schema', cs', hshows⟩
    obtain ⟨oid, hoid⟩ := Finite.surjective_of_injective ρ.relation.injective r'.oid
    have hrelation := hshows.relation_eq
    rw [← hoid, h.relations] at hrelation
    obtain ⟨r, hr, rfl⟩ := Option.map_eq_some_iff.mp hrelation
    have hlisted := hshows.schema_eq
    rw [Renumbering.onRelation, h.schemas] at hlisted
    obtain ⟨schema, hschema, rfl⟩ := Option.map_eq_some_iff.mp hlisted
    have hexposed := hshows.columns_eq
    rw [Renumbering.onRelation, h.columns] at hexposed
    obtain ⟨cs, hcs, rfl⟩ := Option.map_eq_some_iff.mp hexposed
    have hr_oid : r.oid = oid := oid_of_get?_relations hr
    refine ⟨r, schema, cs, hr_oid ▸ hr, hschema, hcs, ?_⟩
    rw [hshows.table_eq, h.tableOf_eq hnames]
  · rintro ⟨r, schema, cs, hshows⟩
    refine ⟨ρ.onRelation r, ρ.onSchema schema, cs.map ρ.onColumn, ?_, ?_, ?_, ?_⟩
    · exact (h.relations r.oid).trans (congrArg (Option.map _) hshows.relation_eq)
    · exact (h.schemas r.schema).trans (congrArg (Option.map _) hshows.schema_eq)
    · exact (h.columns r.oid).trans (congrArg (Option.map _) hshows.columns_eq)
    · rw [hshows.table_eq, h.tableOf_eq hnames]

end

/-! ### Aggregates -/

theorem aggregates_renumbered : (survey (s.renumbered ρ) excluded).document.aggregates =
    (survey s excluded).document.aggregates := by
  have htypes := ScalarType.get?_ofRows_renumbered ρ s.types
  have hoverloads : (survey (s.renumbered ρ) excluded).overloads =
      (survey s excluded).overloads.map ρ.onOverload :=
    Overload.qualifying_renumbered htypes s.procedures s.aggregates
  have hsignatures : (survey (s.renumbered ρ) excluded).overloads.map Overload.signature =
      (survey s excluded).overloads.map Overload.signature := by
    rw [hoverloads, List.map_map]
    rfl
  rw [aggregates_document, aggregates_document]
  refine AggregateCatalog.returnTypes_ofOverloads_congr fun x => ?_
  exact iff_of_eq (congrArg (x ∈ ·) hsignatures)

end Survey

open Catalog

/-- **The document does not depend on the numbers of the oids.** All objects may get new oids, as
long as those of schemas keep their order, no two relations of one schema share both name and kind,
and no two constraints of one relation share a name. -/
theorem resolve_renumbered (s : Snapshot) (ρ : Renumbering) (excluded : List String)
    (hincreasing : ∀ n ∈ s.namespaces, ∀ m ∈ s.namespaces, n.oid < m.oid →
      ρ.schema n.oid < ρ.schema m.oid)
    (hclasses : (s.classes.map fun c => (c.name, c.schema, c.kind)).Nodup)
    (hconstraints : (s.constraints.map fun c => (c.relation, c.name)).Nodup) :
    (s.renumbered ρ).resolve excluded = s.resolve excluded := by
  have hsurveys : Survey.Renumbers ρ (survey s excluded) (survey (s.renumbered ρ) excluded) :=
    Survey.renumbers_survey hincreasing hclasses
  have htables : ((s.renumbered ρ).resolve excluded).tables = (s.resolve excluded).tables := by
    apply SortedMap.ext_get?
    intro name
    apply Option.ext
    intro t
    have hshown : (survey (s.renumbered ρ) excluded).tables.get? name = some t ↔
        (survey s excluded).tables.get? name = some t := by
      rw [Survey.get?_tables, Survey.get?_tables, hsurveys.shows_iff hconstraints]
    exact hshown
  have haggregates : ((s.renumbered ρ).resolve excluded).aggregates =
      (s.resolve excluded).aggregates := Survey.aggregates_renumbered
  cases hold : s.resolve excluded with
  | mk tables aggregates =>
    cases hnew : (s.renumbered ρ).resolve excluded with
    | mk tables' aggregates' =>
      rw [hold, hnew] at htables haggregates
      exact congrArg₂ Document.mk htables haggregates

open Catalog.Sample.Oids in
/-- Customers and orders swap their oids, and so do two keys of the customers and two types. The
schema of sales gets a greater oid, but not as great as that of the archive. -/
def restored : Renumbering where
  schema := (Equiv.swap sales 16450).toEmbedding
  relation := (Equiv.swap 60001 60004).toEmbedding
  type := (Equiv.swap int4 text).toEmbedding
  type_zero := by decide
  constraint := (Equiv.swap 60002 60003).toEmbedding
  procedure := .refl Oid

/-- A restored shop is shown like the shop that was dumped. -/
theorem resolve_restored :
    let shop := ({} : Sample).shop.snapshot
    (∀ n ∈ shop.namespaces, ∀ m ∈ shop.namespaces, n.oid < m.oid →
        restored.schema n.oid < restored.schema m.oid) ∧
      (shop.classes.map fun c => (c.name, c.schema, c.kind)).Nodup ∧
      (shop.constraints.map fun c => (c.relation, c.name)).Nodup ∧
      (shop.renumbered restored).classes.map ClassRow.oid = [60004, 60001] ∧
      (shop.renumbered restored).resolve Sample.excluded = shop.resolve Sample.excluded := by
  intro shop
  have hincreasing : ∀ n ∈ shop.namespaces, ∀ m ∈ shop.namespaces, n.oid < m.oid →
      restored.schema n.oid < restored.schema m.oid := by decide
  have hclasses : (shop.classes.map fun c => (c.name, c.schema, c.kind)).Nodup := by decide
  have hconstraints : (shop.constraints.map fun c => (c.relation, c.name)).Nodup := by decide
  exact ⟨hincreasing, hclasses, hconstraints, by decide,
    resolve_renumbered shop restored Sample.excluded hincreasing hclasses hconstraints⟩

end SchemaSurvey
