/-
  `ExposureRule` — which names the document has tables for.

  The rule is stated on the rows alone. Class rows compete for a name; the least of them by schema,
  kind letter and oid wins it (`Snapshot.Wins`); the winner is shown if it has live columns, all of
  usable types (`Snapshot.Showable`). A name has a table exactly when its winner is shown
  (`resolve_exposes_winners`), so a winner that is not shown hides its rivals.

  The rule needs distinct oids. Relations are stored by oid, and of two winners with one oid only
  one would be kept.
-/
import SchemaSurvey.Catalog.Sample
import SchemaSurvey.Proofs.Survey.Tables

namespace SchemaSurvey

open Catalog

/-! ### The rule -/

namespace Catalog

/-- Class rows by schema, kind letter and oid. -/
def ClassRow.Precedes (c d : ClassRow) : Prop :=
  c.schema < d.schema ∨
    c.schema = d.schema ∧ (c.kind < d.kind ∨ c.kind = d.kind ∧ c.oid ≤ d.oid)

instance (c d : ClassRow) : Decidable (c.Precedes d) := inferInstanceAs (Decidable (_ ∨ _))

namespace Snapshot

/-- A relation with rows, in a schema that is not excluded, competes for its name. -/
structure Competes (s : Snapshot) (excluded : List String) (name : String) (c : ClassRow) :
    Prop where
  mem : c ∈ s.classes
  name_eq : c.name = name
  kind_mem : c.kind ∈ ['r', 'v', 'm', 'f', 'p']
  listed : ∃ n ∈ s.namespaces, n.oid = c.schema ∧ n.name ∉ excluded

/-- The least of those that compete for a name wins it. -/
structure Wins (s : Snapshot) (excluded : List String) (name : String) (c : ClassRow) : Prop
    extends s.Competes excluded name c where
  least : ∀ d, s.Competes excluded name d → c.Precedes d

/-- A relation can be shown if it has a live column, and every live column has a usable type. -/
structure Showable (s : Snapshot) (c : ClassRow) : Prop where
  hasLive : ∃ a ∈ s.attributes, a.relation = c.oid ∧ a.isLive = true
  usable : ∀ a ∈ s.attributes, a.relation = c.oid → a.isLive = true →
    ∃ t ∈ s.types, t.oid = a.type ∧ t.isUsable = true

/-! The rule can be computed. -/

instance (s : Snapshot) (excluded : List String) (name : String) (c : ClassRow) :
    Decidable (s.Competes excluded name c) :=
  decidable_of_iff
    (c ∈ s.classes ∧ c.name = name ∧ c.kind ∈ ['r', 'v', 'm', 'f', 'p'] ∧
      ∃ n ∈ s.namespaces, n.oid = c.schema ∧ n.name ∉ excluded)
    ⟨fun ⟨hmem, hname, hkind, hlisted⟩ => ⟨hmem, hname, hkind, hlisted⟩,
      fun ⟨hmem, hname, hkind, hlisted⟩ => ⟨hmem, hname, hkind, hlisted⟩⟩

instance (s : Snapshot) (excluded : List String) (name : String) (c : ClassRow) :
    Decidable (s.Wins excluded name c) :=
  decidable_of_iff
    (s.Competes excluded name c ∧ ∀ d ∈ s.classes, s.Competes excluded name d → c.Precedes d)
    ⟨fun ⟨hcompetes, hleast⟩ => ⟨hcompetes, fun d hd => hleast d hd.mem hd⟩,
      fun ⟨hcompetes, hleast⟩ => ⟨hcompetes, fun d _ hd => hleast d hd⟩⟩

instance (s : Snapshot) (c : ClassRow) : Decidable (s.Showable c) :=
  decidable_of_iff
    ((∃ a ∈ s.attributes, a.relation = c.oid ∧ a.isLive = true) ∧
      ∀ a ∈ s.attributes, a.relation = c.oid → a.isLive = true →
        ∃ t ∈ s.types, t.oid = a.type ∧ t.isUsable = true)
    ⟨fun ⟨hlive, husable⟩ => ⟨hlive, husable⟩, fun ⟨hlive, husable⟩ => ⟨hlive, husable⟩⟩

end Snapshot

end Catalog

namespace Survey

variable {s : Snapshot} {excluded : List String} {name : String} {c d : ClassRow}

/-! ### Who wins -/

theorem RelationKind.exists_letter_iff {l : Char} :
    (∃ k : RelationKind, k.letter = l) ↔ l ∈ ['r', 'v', 'm', 'f', 'p'] := by
  constructor
  · rintro ⟨k, rfl⟩
    cases k <;> decide
  · intro h
    simp only [List.mem_cons, List.not_mem_nil, or_false] at h
    rcases h with rfl | rfl | rfl | rfl | rfl
    · exact ⟨.ordinaryTable, rfl⟩
    · exact ⟨.view, rfl⟩
    · exact ⟨.materializedView, rfl⟩
    · exact ⟨.foreignTable, rfl⟩
    · exact ⟨.partitionedTable, rfl⟩

/-- The rows that compete for a name are those that describe a relation of that name. -/
theorem competes_iff : s.Competes excluded name c ↔
    c ∈ s.classes ∧ ∃ r, Relation.ofRow? (survey s excluded).schemas c = some r ∧
      r.name = name := by
  constructor
  · rintro ⟨hmem, hname, hkind, hlisted⟩
    obtain ⟨k, hk⟩ := RelationKind.exists_letter_iff.mpr hkind
    refine ⟨hmem, ⟨c.oid, c.schema, c.name, k⟩, ?_, hname⟩
    exact Relation.ofRow?_eq_some_iff.mpr
      ⟨Schema.contains_ofRows.mpr hlisted, rfl, rfl, rfl, hk⟩
  · rintro ⟨hmem, r, hr, hname⟩
    obtain ⟨hcontains, -, -, hrow, hk⟩ := Relation.ofRow?_eq_some_iff.mp hr
    exact ⟨hmem, hrow ▸ hname, RelationKind.exists_letter_iff.mp ⟨r.kind, hk⟩,
      Schema.contains_ofRows.mp hcontains⟩

theorem compare_char_eq_lt {a b : Char} : compare a b = .lt ↔ a < b :=
  compareOfLessAndEq_eq_lt

/-- Relations of one name are ordered as their rows are. -/
theorem isLE_order_iff {schemas : SortedMap Oid Schema} {r q : Relation}
    (hr : Relation.ofRow? schemas c = some r) (hq : Relation.ofRow? schemas d = some q)
    (hname : r.name = q.name) : (Relation.order r q).isLE = true ↔ c.Precedes d := by
  obtain ⟨-, hr_oid, hr_schema, -, hr_kind⟩ := Relation.ofRow?_eq_some_iff.mp hr
  obtain ⟨-, hq_oid, hq_schema, -, hq_kind⟩ := Relation.ofRow?_eq_some_iff.mp hq
  -- Names come first in the order of relations, and here they do not decide.
  have hequal : compare r.name q.name = .eq := Std.LawfulEqOrd.compare_eq_iff_eq.mpr hname
  rw [Relation.order, hequal, Ordering.eq_then, Ordering.isLE_then_iff_or,
    Ordering.isLE_then_iff_or, Std.compare_eq_lt, compare_char_eq_lt, Std.isLE_compare,
    Std.LawfulEqOrd.compare_eq_iff_eq, Std.LawfulEqOrd.compare_eq_iff_eq, hr_oid, hr_schema,
    hr_kind, hq_oid, hq_schema, hq_kind]
  rfl

/-- **The row that wins a name** describes the least relation of that name. -/
theorem wins_iff : s.Wins excluded name c ↔
    c ∈ s.classes ∧ ∃ r, Relation.ofRow? (survey s excluded).schemas c = some r ∧
      IsLeastOf Relation.order (Relation.candidates s.classes (survey s excluded).schemas)
        (fun q => q.name = name) r := by
  constructor
  · rintro ⟨hcompetes, hleast⟩
    obtain ⟨hmem, r, hr, hname⟩ := competes_iff.mp hcompetes
    refine ⟨hmem, r, hr, Relation.mem_candidates.mpr ⟨c, hmem, hr⟩, hname, fun q hq hqname => ?_⟩
    obtain ⟨d, hd, hdq⟩ := Relation.mem_candidates.mp hq
    have hprecedes := hleast d (competes_iff.mpr ⟨hd, q, hdq, hqname⟩)
    exact (isLE_order_iff hr hdq (hname.trans hqname.symm)).mpr hprecedes
  · rintro ⟨hmem, r, hr, hleast⟩
    have hname : r.name = name := hleast.holds
    refine ⟨competes_iff.mpr ⟨hmem, r, hr, hname⟩, fun d hd => ?_⟩
    obtain ⟨hd, q, hdq, hqname⟩ := competes_iff.mp hd
    have hisLE := hleast.isLE q (Relation.mem_candidates.mpr ⟨d, hd, hdq⟩) hqname
    exact (isLE_order_iff hr hdq (hname.trans hqname.symm)).mp hisLE

/-- **A name that is competed for is won.** -/
theorem exists_wins (h : s.Competes excluded name c) : ∃ w, s.Wins excluded name w := by
  obtain ⟨hmem, r, hr, hname⟩ := competes_iff.mp h
  have hchoice := Relation.isChoice_leastByName
    (Relation.candidates s.classes (survey s excluded).schemas) name
  cases hleast : (Relation.leastByName
      (Relation.candidates s.classes (survey s excluded).schemas)).get? name with
  | none =>
    rw [hleast] at hchoice
    exact absurd hname (hchoice r (Relation.mem_candidates.mpr ⟨c, hmem, hr⟩))
  | some q =>
    have hq := Relation.get?_leastByName.mp hleast
    obtain ⟨w, hw, hwq⟩ := Relation.mem_candidates.mp hq.mem
    exact ⟨w, wins_iff.mpr ⟨hw, q, hwq, hq⟩⟩

/-- **A name is won once,** since the least relation of the name has all that its row has. -/
theorem wins_unique (hc : s.Wins excluded name c) (hd : s.Wins excluded name d) : c = d := by
  obtain ⟨-, r, hr, hc_least⟩ := wins_iff.mp hc
  obtain ⟨-, q, hq, hd_least⟩ := wins_iff.mp hd
  obtain rfl := hc_least.unique hd_least
  obtain ⟨-, hc_oid, hc_schema, hc_name, hc_kind⟩ := Relation.ofRow?_eq_some_iff.mp hr
  obtain ⟨-, hd_oid, hd_schema, hd_name, hd_kind⟩ := Relation.ofRow?_eq_some_iff.mp hq
  cases c
  cases d
  simp_all

/-! ### Who is shown -/

/-- **Of distinct relations every winner is kept.** -/
theorem get?_relations (hclasses : (s.classes.map ClassRow.oid).Nodup) {r : Relation} :
    (survey s excluded).relations.get? r.oid = some r ↔
      IsLeastOf Relation.order (Relation.candidates s.classes (survey s excluded).schemas)
        (fun q => q.name = r.name) r := by
  refine ⟨fun h => (Relation.least_of_get?_ofRows h).2, fun h => ?_⟩
  refine (SortedMap.get?_ofList ?_).mpr ?_
  · -- Two relations with one oid come from one row.
    intro e he f hf hkey
    obtain ⟨q, hq, rfl⟩ := List.mem_map.mp he
    obtain ⟨p, hp, rfl⟩ := List.mem_map.mp hf
    obtain ⟨n, hn⟩ := SortedMap.mem_values.mp hq
    obtain ⟨m, hm⟩ := SortedMap.mem_values.mp hp
    obtain ⟨c, hc, hcq⟩ := Relation.mem_candidates.mp (Relation.get?_leastByName.mp hn).mem
    obtain ⟨d, hd, hdp⟩ := Relation.mem_candidates.mp (Relation.get?_leastByName.mp hm).mem
    have hoid : c.oid = d.oid := by
      rw [← (Relation.ofRow?_eq_some_iff.mp hcq).2.1, ← (Relation.ofRow?_eq_some_iff.mp hdp).2.1]
      exact hkey
    obtain rfl := List.inj_on_of_nodup_map hclasses hc hd hoid
    exact Option.some.inj (hcq.symm.trans hdp)
  · have hvalue := SortedMap.mem_values.mpr ⟨r.name, Relation.get?_leastByName.mpr h⟩
    exact List.mem_map.mpr ⟨r, hvalue, rfl⟩

theorem showable_iff (excluded : List String) : s.Showable c ↔
    ∃ cs, (Exposure.ofRows (survey s excluded).types (liveRows s.attributes c.oid)).columns? =
      some cs := by
  have husable : (∀ a ∈ liveRows s.attributes c.oid,
      (survey s excluded).types.contains a.type = true) ↔
      ∀ a ∈ s.attributes, a.relation = c.oid → a.isLive = true →
        ∃ t ∈ s.types, t.oid = a.type ∧ t.isUsable = true := by
    rw [forall_mem_liveRows]
    exact forall₂_congr fun a _ => forall₂_congr fun _ _ => ScalarType.contains_ofRows
  simp only [Exposure.columns?_ofRows, liveRows_ne_nil_iff, husable]
  constructor
  · rintro ⟨hlive, hall⟩
    exact ⟨_, hlive, hall, rfl⟩
  · rintro ⟨_, hlive, hall, -⟩
    exact ⟨hlive, hall⟩

/-- A table shows the relation that wins its name. -/
theorem winner_of_shows {t : Document.Table} {r : Relation} {schema : Schema}
    {cs : List Survey.Column} (h : (survey s excluded).Shows t r schema cs) :
    ∃ c, s.Wins excluded t.name c ∧ s.Showable c ∧ c.schema = r.schema := by
  have hname : t.name = r.name := by rw [h.table_eq, tableOf]
  have hleast := (Relation.least_of_get?_ofRows h.relation_eq).2
  obtain ⟨c, hc, hcr⟩ := Relation.mem_candidates.mp hleast.mem
  obtain ⟨-, hoid, hschema, -⟩ := Relation.ofRow?_eq_some_iff.mp hcr
  have hcolumns := (get?_columns.mp h.columns_eq).2
  rw [hoid] at hcolumns
  exact ⟨c, wins_iff.mpr ⟨hc, r, hcr, hname ▸ hleast⟩, (showable_iff excluded).mpr ⟨cs, hcolumns⟩,
    hschema.symm⟩

/-- A winner that can be shown is shown. -/
theorem exists_shows_of_wins (hclasses : (s.classes.map ClassRow.oid).Nodup)
    (hwins : s.Wins excluded name c) (hshowable : s.Showable c) :
    ∃ t r schema cs, (survey s excluded).Shows t r schema cs ∧ r.oid = c.oid ∧ r.name = name := by
  obtain ⟨-, r, hr, hleast⟩ := wins_iff.mp hwins
  have hname : r.name = name := hleast.holds
  have hoid : r.oid = c.oid := (Relation.ofRow?_eq_some_iff.mp hr).2.1
  have hkept := (get?_relations hclasses).mpr (hname ▸ hleast)
  obtain ⟨cs, hcs⟩ := (showable_iff excluded).mp hshowable
  rw [← hoid] at hcs
  have hcolumns := get?_columns.mpr ⟨SortedMap.contains_of_get? hkept, hcs⟩
  obtain ⟨t, q, schema, hqoid, hshows, -⟩ := exists_shows hcolumns
  -- The table that is found shows the relation of this oid, which is the winner.
  obtain rfl : q = r := by
    have hq := hshows.relation_eq
    rw [hqoid, hkept] at hq
    exact (Option.some.inj hq).symm
  exact ⟨t, q, schema, cs, hshows, hoid, hname⟩

/-- A winner that can be shown has a table. -/
theorem exists_table (hclasses : (s.classes.map ClassRow.oid).Nodup)
    (hwins : s.Wins excluded name c) (hshowable : s.Showable c) :
    ∃ t, (survey s excluded).tables.get? name = some t := by
  obtain ⟨t, r, schema, cs, hshows, -, hname⟩ := exists_shows_of_wins hclasses hwins hshowable
  refine ⟨t, get?_tables.mpr ⟨?_, r, schema, cs, hshows⟩⟩
  rw [hshows.table_eq]
  exact hname

end Survey

/-- **A name has a table exactly when the row that wins it can be shown.** The table is in the
schema of that row, and if the row cannot be shown there is no table, whoever else competes. -/
theorem resolve_exposes_winners (s : Snapshot) (excluded : List String)
    (hclasses : (s.classes.map ClassRow.oid).Nodup)
    (hnamespaces : (s.namespaces.map NamespaceRow.oid).Nodup) (name : String) :
    ((s.resolve excluded).tables.contains name = true ↔
      ∃ c, s.Wins excluded name c ∧ s.Showable c) ∧
    (∀ c, s.Wins excluded name c → ∀ t, (s.resolve excluded).tables.get? name = some t →
      ∀ n ∈ s.namespaces, n.oid = c.schema → t.schema = n.name) ∧
    ∀ c, s.Wins excluded name c → ¬ s.Showable c →
      (s.resolve excluded).tables.get? name = none := by
  -- All three parts compare the winner with the relation that a table shows.
  have winner_of_get? : ∀ t, (s.resolve excluded).tables.get? name = some t →
      ∃ r schema cs c, (survey s excluded).Shows t r schema cs ∧ s.Wins excluded name c ∧
        s.Showable c ∧ c.schema = r.schema := fun t ht => by
    obtain ⟨htname, r, schema, cs, hshows⟩ := Survey.get?_tables.mp ht
    obtain ⟨c, hwins, hshowable, hschema⟩ := Survey.winner_of_shows hshows
    exact ⟨r, schema, cs, c, hshows, htname ▸ hwins, hshowable, hschema⟩
  refine ⟨⟨fun h => ?_, fun ⟨c, hwins, hshowable⟩ => ?_⟩, fun c hwins t ht n hn hoid => ?_,
    fun c hwins hhidden => ?_⟩
  · obtain ⟨t, ht⟩ := SortedMap.contains_iff.mp h
    obtain ⟨-, -, -, c, -, hwins, hshowable, -⟩ := winner_of_get? t ht
    exact ⟨c, hwins, hshowable⟩
  · exact SortedMap.contains_iff.mpr (Survey.exists_table hclasses hwins hshowable)
  · obtain ⟨r, schema, cs, d, hshows, hd, -, hschema⟩ := winner_of_get? t ht
    obtain rfl := Survey.wins_unique hwins hd
    obtain ⟨m, hm, hm_oid, -, rfl⟩ := Survey.Schema.row_of_get? hshows.schema_eq
    have hnm : n = m :=
      List.inj_on_of_nodup_map hnamespaces hn hm (hoid.trans (hschema.trans hm_oid.symm))
    rw [hshows.table_eq, hnm, Survey.tableOf]
  · cases ht : (s.resolve excluded).tables.get? name with
    | none => rfl
    | some t =>
      obtain ⟨-, -, -, d, -, hd, hshowable, -⟩ := winner_of_get? t ht
      exact absurd (Survey.wins_unique hwins hd ▸ hshowable) hhidden

open Catalog.Sample.Oids in
/-- Two tables named `items`, of which the first has a column of an array type, and a view and a
materialized view named `totals`. -/
def namesakes : Snapshot :=
  let b : Sample := {}
  let b := b.table publicSchema "items" [⟨"id", int4, true⟩, ⟨"tags", textArray, false⟩]
  let b := b.table sales "items" [⟨"id", int4, true⟩]
  let b := b.relation sales "totals" 'v' [⟨"total", numeric, false⟩]
  (b.relation sales "totals" 'm' [⟨"total", numeric, false⟩]).snapshot

/-- The materialized view is shown, and neither of the tables is. -/
theorem resolve_namesakes :
    (namesakes.classes.map ClassRow.oid).Nodup ∧ (namesakes.namespaces.map NamespaceRow.oid).Nodup ∧
      (∃ t, (namesakes.resolve Sample.excluded).tables.get? "totals" = some t ∧
        t.schema = "sales") ∧
      (namesakes.resolve Sample.excluded).tables.get? "items" = none := by
  have hclasses : (namesakes.classes.map ClassRow.oid).Nodup := by decide
  have hnamespaces : (namesakes.namespaces.map NamespaceRow.oid).Nodup := by decide
  obtain ⟨hexposed, hschema, -⟩ :=
    resolve_exposes_winners namesakes Sample.excluded hclasses hnamespaces "totals"
  obtain ⟨-, -, hhidden⟩ :=
    resolve_exposes_winners namesakes Sample.excluded hclasses hnamespaces "items"
  have hwins : namesakes.Wins Sample.excluded "totals" ⟨60004, Sample.Oids.sales, "totals", 'm'⟩ :=
    by decide
  refine ⟨hclasses, hnamespaces, ?_, ?_⟩
  · obtain ⟨t, ht⟩ := SortedMap.contains_iff.mp (hexposed.mpr ⟨_, hwins, by decide⟩)
    exact ⟨t, ht, hschema _ hwins t ht ⟨Sample.Oids.sales, "sales"⟩ (by decide) rfl⟩
  · exact hhidden ⟨60001, Sample.Oids.publicSchema, "items", 'r'⟩ (by decide) (by decide)

end SchemaSurvey
