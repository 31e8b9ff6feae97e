/-
  `Dependence` — which rows a stage looks at.

  Each stage passes over most of the rows it is given: schemas over excluded names, columns over
  attributes of other relations, comments over descriptions of other things, constraints over rows
  that resolve to nothing. Rows that a stage passes over may be taken away (the `_filter` lemmas).

  The choice among rivals is the exception. To take away a rival may let another one win, or free
  the oid under which a relation is stored, so relations are only settled by rows that describe
  exactly the relations kept (`Relation.ofRows_filter`).
-/
import SchemaSurvey.Proofs.Survey.Tables

namespace SchemaSurvey.Survey

open Catalog

/-! ### Lists -/

section

variable {α β : Type} {l : List α} {p : α → Bool}

theorem filter_filter_of_imp {q : α → Bool} (h : ∀ a ∈ l, q a = true → p a = true) :
    (l.filter p).filter q = l.filter q := by
  rw [List.filter_filter]
  refine List.filter_congr fun a ha => ?_
  cases hq : q a with
  | false => rfl
  | true => rw [h a ha hq, Bool.and_self]

theorem filterMap_filter_of_imp {f : α → Option β}
    (h : ∀ a ∈ l, ∀ b, f a = some b → p a = true) : (l.filter p).filterMap f = l.filterMap f := by
  rw [List.filterMap_filter]
  refine List.filterMap_congr fun a ha => ?_
  cases hb : f a with
  | none => exact ite_self none
  | some b => rw [if_pos (h a ha b hb)]

end

/-! ### Schemas -/

theorem Schema.ofRows_filter {rows : List NamespaceRow} {excluded : List String}
    {p : NamespaceRow → Bool} (hp : ∀ n ∈ rows, n.name ∉ excluded → p n = true) :
    ofRows (rows.filter p) excluded = ofRows rows excluded := by
  rw [ofRows, ofRows, filter_filter_of_imp]
  intro n hn hlisted
  exact hp n hn (by simpa using hlisted)

/-! ### Relations -/

namespace Relation

variable {rows : List ClassRow} {schemas : SortedMap Oid Schema}

theorem mem_values_ofRows {r : Relation} :
    r ∈ (ofRows rows schemas).values ↔ (ofRows rows schemas).get? r.oid = some r := by
  rw [SortedMap.mem_values]
  constructor
  · rintro ⟨oid, h⟩
    obtain ⟨rfl, -⟩ := least_of_get?_ofRows h
    exact h
  · exact fun h => ⟨r.oid, h⟩

/-- **Candidates that no longer compete are all kept.** They have distinct names and oids already,
so none gives way to another. -/
theorem ofRows_eq_of_candidates {rows' : List ClassRow}
    (h : ∀ r, r ∈ candidates rows' schemas ↔ (ofRows rows schemas).get? r.oid = some r) :
    ofRows rows' schemas = ofRows rows schemas := by
  have hleast : ∀ r, r ∈ (leastByName (candidates rows' schemas)).values ↔
      (ofRows rows schemas).get? r.oid = some r := fun r => by
    rw [SortedMap.mem_values]
    constructor
    · rintro ⟨name, hr⟩
      exact (h r).mp (get?_leastByName.mp hr).mem
    · intro hr
      refine ⟨r.name, get?_leastByName.mpr ⟨(h r).mpr hr, rfl, fun q hq hname => ?_⟩⟩
      have hkept := (h q).mp hq
      have hoid : q.oid = r.oid := oid_eq_of_name_eq hkept hr hname
      rw [hoid, hr] at hkept
      rw [Option.some.inj hkept]
      exact isLE_self
  apply SortedMap.ext_get?
  intro oid
  apply Option.ext
  intro r
  rw [ofRows, SortedMap.get?_ofList]
  · simp only [List.mem_map, Prod.mk.injEq]
    constructor
    · rintro ⟨q, hq, rfl, rfl⟩
      exact (hleast q).mp hq
    · intro hr
      obtain ⟨rfl, -⟩ := least_of_get?_ofRows hr
      exact ⟨r, (hleast r).mpr hr, rfl, rfl⟩
  · -- Two entries of one oid are the relation that is kept under it.
    intro e he f hf hkey
    obtain ⟨q, hq, rfl⟩ := List.mem_map.mp he
    obtain ⟨r, hr, rfl⟩ := List.mem_map.mp hf
    have hq_kept := (hleast q).mp hq
    have hr_kept := (hleast r).mp hr
    rw [show q.oid = r.oid from hkey, hr_kept] at hq_kept
    exact (Option.some.inj hq_kept).symm

theorem ofRows_filter {p : ClassRow → Bool} (hp : ∀ c ∈ rows, p c = true ↔
      ∃ r, ofRow? schemas c = some r ∧ (ofRows rows schemas).get? r.oid = some r) :
    ofRows (rows.filter p) schemas = ofRows rows schemas := by
  refine ofRows_eq_of_candidates fun r => ?_
  rw [mem_candidates]
  constructor
  · rintro ⟨c, hc, hcr⟩
    obtain ⟨hc, hkeep⟩ := List.mem_filter.mp hc
    obtain ⟨q, hcq, hq⟩ := (hp c hc).mp hkeep
    rw [hcr] at hcq
    rwa [Option.some.inj hcq]
  · intro hr
    obtain ⟨c, hc, hcr⟩ := mem_candidates.mp (least_of_get?_ofRows hr).2.mem
    exact ⟨c, List.mem_filter.mpr ⟨hc, (hp c hc).mpr ⟨r, hcr, hr⟩⟩, hcr⟩

end Relation

/-! ### Columns -/

theorem liveRows_filter {rows : List AttributeRow} {oid : Oid} {p : AttributeRow → Bool}
    (hp : ∀ a ∈ rows, a.relation = oid → p a = true) :
    liveRows (rows.filter p) oid = liveRows rows oid := by
  rw [liveRows, filter_filter_of_imp]
  · rfl
  · intro a ha hlive
    rw [Bool.and_eq_true, beq_iff_eq] at hlive
    exact hp a ha hlive.1

theorem Exposure.ofRelations_congr {rows rows' : List AttributeRow}
    {relations : SortedMap Oid Relation} {types : SortedMap Oid ScalarType}
    (h : ∀ oid, relations.contains oid = true → liveRows rows oid = liveRows rows' oid) :
    ofRelations rows relations types = ofRelations rows' relations types := by
  apply SortedMap.ext_get?
  intro oid
  rw [ofRelations, ofRelations, SortedMap.get?_map, SortedMap.get?_map]
  cases hr : relations.get? oid with
  | none => rfl
  | some r => rw [h oid (SortedMap.contains_of_get? hr)]

theorem Exposure.ofRelations_filter {rows : List AttributeRow} {relations : SortedMap Oid Relation}
    {types : SortedMap Oid ScalarType} {p : AttributeRow → Bool}
    (hp : ∀ a ∈ rows, relations.contains a.relation = true → p a = true) :
    ofRelations (rows.filter p) relations types = ofRelations rows relations types :=
  ofRelations_congr fun _ hoid =>
    liveRows_filter fun a ha hrelation => hp a ha (hrelation ▸ hoid)

/-! ### Comments -/

theorem lastComment?_filter {rows : List DescriptionRow} {relation : Oid} {part : Int32}
    {p : DescriptionRow → Bool}
    (hp : ∀ d ∈ rows, d.holder = relationHolder → d.object = relation → p d = true) :
    lastComment? (rows.filter p) relation part = lastComment? rows relation part := by
  rw [lastComment?, filter_filter_of_imp]
  · rfl
  · intro d hd hread
    simp only [Bool.and_eq_true, beq_iff_eq] at hread
    exact hp d hd hread.1.1 hread.1.2

theorem Comments.ofColumns_congr {rows rows' : List DescriptionRow} {columns : Columns}
    (h : ∀ oid, columns.contains oid = true →
      ∀ part, lastComment? rows oid part = lastComment? rows' oid part) :
    ofColumns rows columns = ofColumns rows' columns := by
  apply SortedMap.ext_get?
  intro oid
  rw [ofColumns, ofColumns, SortedMap.get?_map, SortedMap.get?_map]
  cases hcs : columns.get? oid with
  | none => rfl
  | some cs => simp only [Option.map_some, ofRows, h oid (SortedMap.contains_of_get? hcs)]

theorem Comments.ofColumns_filter {rows : List DescriptionRow} {columns : Columns}
    {p : DescriptionRow → Bool} (hp : ∀ d ∈ rows, d.holder = relationHolder →
      columns.contains d.object = true → p d = true) :
    ofColumns (rows.filter p) columns = ofColumns rows columns :=
  ofColumns_congr fun _ hoid _ =>
    lastComment?_filter fun d hd hholder hobject => hp d hd hholder (hobject ▸ hoid)

/-! ### Constraints -/

namespace Constraints

variable {rows : List ConstraintRow} {columns : Columns} {p : ConstraintRow → Bool}

theorem uniqueness_filter
    (hp : ∀ c ∈ rows, ∀ u, Resolution.ofRow columns c = .unique u → p c = true) :
    (ofRows (rows.filter p) columns).uniqueness = (ofRows rows columns).uniqueness := by
  simp only [ofRows, List.filterMap_map]
  rw [filterMap_filter_of_imp]
  intro c hc u hu
  exact hp c hc u (Resolution.unique?_eq_some.mp hu)

theorem foreignKeys_filter
    (hp : ∀ c ∈ rows, ∀ f, Resolution.ofRow columns c = .foreign f → p c = true) :
    (ofRows (rows.filter p) columns).foreignKeys = (ofRows rows columns).foreignKeys := by
  simp only [ofRows, List.filterMap_map]
  rw [filterMap_filter_of_imp]
  intro c hc f hf
  exact hp c hc f (Resolution.foreign?_eq_some.mp hf)

end Constraints

/-! ### The document -/

/-- The document is read off six of the stages; what constraints were dropped does not show. -/
theorem document_eq_of_stages {v w : Survey} (hschemas : v.schemas = w.schemas)
    (hrelations : v.relations = w.relations) (hcolumns : v.columns = w.columns)
    (hcomments : v.comments = w.comments)
    (huniqueness : v.constraints.uniqueness = w.constraints.uniqueness)
    (hforeign : v.constraints.foreignKeys = w.constraints.foreignKeys)
    (haggregates : v.aggregates = w.aggregates) : v.document = w.document := by
  obtain ⟨vschemas, vtypes, vrelations, vexposures, vcolumns, vcomments,
    ⟨vuniqueness, vforeign, vdropped⟩, voverloads, vaggregates⟩ := v
  obtain ⟨wschemas, wtypes, wrelations, wexposures, wcolumns, wcomments,
    ⟨wuniqueness, wforeign, wdropped⟩, woverloads, waggregates⟩ := w
  obtain rfl : vschemas = wschemas := hschemas
  obtain rfl : vrelations = wrelations := hrelations
  obtain rfl : vcolumns = wcolumns := hcolumns
  obtain rfl : vcomments = wcomments := hcomments
  obtain rfl : vuniqueness = wuniqueness := huniqueness
  obtain rfl : vforeign = wforeign := hforeign
  obtain rfl : vaggregates = waggregates := haggregates
  rfl

end SchemaSurvey.Survey
