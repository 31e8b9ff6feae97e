/-
  `ForeignKeys` — which columns a foreign key of the document matches.

  A foreign key row pairs the columns of two relations position by position. It is followed here
  from the row to the document: the numbers of both sides are turned into names, the names are
  paired, and the pairs are stored by local column (`resolve_foreignKey`).

  The last step is where positions can be lost. A local column may be matched with several
  referenced columns, since the referencing side of a key may repeat a column; the document has room
  for one of them and shows the last. So the columns are paired by position exactly when no local
  column repeats (`Document.ForeignKey.pairedByPosition_iff`), and `visits [1, 1]` is a catalog
  where one does.
-/
import SchemaSurvey.Proofs.Survey.ExposureRule

namespace SchemaSurvey

open Catalog

/-! ### What a foreign key should show -/

/-- The columns are matched position by position, and there are no others. -/
structure Document.ForeignKey.PairedByPosition (f : Document.ForeignKey)
    (names foreignNames : List String) : Prop where
  size_eq : f.columns.size = names.length
  get?_eq : ∀ (i : Nat) (column foreign : String), names[i]? = some column →
    foreignNames[i]? = some foreign → f.columns.get? column = some foreign

namespace Catalog.Snapshot

/-- The names and numbers that a server keeps distinct. -/
structure NamesDistinct (s : Snapshot) : Prop where
  classes : (s.classes.map ClassRow.oid).Nodup
  numbers : (s.attributes.map fun a => (a.relation, a.number)).Nodup
  names : (s.attributes.map fun a => (a.relation, a.name)).Nodup
  constraints : (s.constraints.map fun c => (c.relation, c.name)).Nodup

/-- The number is that of a live column of this name. -/
def Names (s : Snapshot) (relation : Oid) (number : Int16) (name : String) : Prop :=
  ∃ a ∈ s.attributes, a.relation = relation ∧ a.isLive = true ∧ a.number = number ∧ a.name = name

instance (s : Snapshot) (relation : Oid) (number : Int16) (name : String) :
    Decidable (s.Names relation number name) :=
  inferInstanceAs (Decidable (∃ a ∈ s.attributes, _))

/-- The relation is shown under its name. -/
structure Exposes (s : Snapshot) (excluded : List String) (c : ClassRow) : Prop where
  wins : s.Wins excluded c.name c
  showable : s.Showable c

/-- The row `c` is a foreign key between exposed relations, and its columns have these names. -/
structure Links (s : Snapshot) (excluded : List String) (c : ConstraintRow)
    (owner target : ClassRow) (names foreignNames : List String) : Prop where
  mem : c ∈ s.constraints
  kind_eq : c.kind = 'f'
  owner_eq : owner.oid = c.relation
  target_eq : target.oid = c.foreignRelation
  exposes_owner : s.Exposes excluded owner
  exposes_target : s.Exposes excluded target
  length_eq : c.key.length = c.foreignKey.length
  names : List.Forall₂ (s.Names c.relation) c.key names
  foreignNames : List.Forall₂ (s.Names c.foreignRelation) c.foreignKey foreignNames

/-! ### Numbers and names -/

variable {s : Snapshot} {oid : Oid}

/-- Live columns have one name for each number. -/
theorem rightUnique_names (hnumbers : (s.attributes.map fun a => (a.relation, a.number)).Nodup) :
    Relator.RightUnique (s.Names oid) := by
  rintro number x y ⟨a, ha, ha_relation, -, ha_number, rfl⟩ ⟨b, hb, hb_relation, -, hb_number, rfl⟩
  have hab : a = b := List.inj_on_of_nodup_map hnumbers ha hb
    (by rw [ha_relation, ha_number, hb_relation, hb_number])
  rw [hab]

/-- Live columns have one name for each number, and one number for each name. -/
theorem biUnique_names (hdistinct : s.NamesDistinct) : Relator.BiUnique (s.Names oid) := by
  refine ⟨?_, rightUnique_names hdistinct.numbers⟩
  rintro n m name ⟨a, ha, ha_relation, -, rfl, ha_name⟩ ⟨b, hb, hb_relation, -, rfl, hb_name⟩
  have hab : a = b := List.inj_on_of_nodup_map hdistinct.names ha hb
    (by rw [ha_relation, ha_name, hb_relation, hb_name])
  rw [hab]

end Catalog.Snapshot

namespace Survey

variable {s : Snapshot} {excluded : List String} {oid : Oid}

/-- A column that is found is a live column of its number and name. -/
theorem names_of_column? {number : Int16} {c : Survey.Column}
    (h : (survey s excluded).columns.column? oid number = some c) : s.Names oid number c.name := by
  obtain ⟨cs, hcs, hmem, hnumber⟩ := Columns.column?_eq_some h
  obtain ⟨a, ha, hac⟩ := (Exposure.mem_of_columns?_ofRows (get?_columns.mp hcs).2).mp hmem
  obtain ⟨ha_mem, ha_relation, ha_live⟩ := mem_liveRows.mp ha
  obtain ⟨-, hc_name, hc_number⟩ := Column.fields_of_ofRow? hac
  exact ⟨a, ha_mem, ha_relation, ha_live, hc_number.symm.trans hnumber, hc_name.symm⟩

/-- For every live column of an exposed relation one of its number is found. -/
theorem exists_column? {cs : List Survey.Column}
    (hcs : (survey s excluded).columns.get? oid = some cs) {number : Int16} {name : String}
    (h : s.Names oid number name) :
    ∃ c, (survey s excluded).columns.column? oid number = some c := by
  obtain ⟨a, ha, ha_relation, ha_live, ha_number, -⟩ := h
  have ha_mem : a ∈ liveRows s.attributes oid := mem_liveRows.mpr ⟨ha, ha_relation, ha_live⟩
  have hexposed := (get?_columns.mp hcs).2
  obtain ⟨-, husable, -⟩ := Exposure.columns?_ofRows.mp hexposed
  obtain ⟨c, hc⟩ : ∃ c, Column.ofRow? (survey s excluded).types a = some c := by
    rw [← Option.isSome_iff_exists, Column.ofRow?_isSome]
    exact husable a ha_mem
  have hc_mem : c ∈ cs := (Exposure.mem_of_columns?_ofRows hexposed).mpr ⟨a, ha_mem, hc⟩
  have hc_number : c.number = number := (Column.fields_of_ofRow? hc).2.2.trans ha_number
  rw [Columns.column?, hcs, Option.bind_some, ← Option.isSome_iff_exists, List.find?_isSome]
  exact ⟨c, hc_mem, by rw [hc_number, beq_self_eq_true]⟩

section

variable (hnumbers : (s.attributes.map fun a => (a.relation, a.number)).Nodup)

include hnumbers

/-- **Live columns are named by their numbers.** -/
theorem column?_of_names {cs : List Survey.Column}
    (hcs : (survey s excluded).columns.get? oid = some cs) {number : Int16} {name : String}
    (h : s.Names oid number name) :
    ∃ c, (survey s excluded).columns.column? oid number = some c ∧ c.name = name := by
  obtain ⟨c, hc⟩ := exists_column? hcs h
  exact ⟨c, hc, Snapshot.rightUnique_names hnumbers (names_of_column? hc) h⟩

theorem names?_of_names {cs : List Survey.Column}
    (hcs : (survey s excluded).columns.get? oid = some cs) {numbers : List Int16}
    {names : List String} (h : List.Forall₂ (s.Names oid) numbers names) :
    (survey s excluded).columns.names? oid numbers = some names :=
  Columns.names?_eq_some_iff.mpr (h.imp fun _ _ hname => column?_of_names hnumbers hcs hname)

end

/-! ### From the row to the document -/

/-- A foreign key is found under its name. -/
theorem get?_foreignKeysOf (hdistinct : s.NamesDistinct) {k : Survey.ForeignKey} {r : Relation}
    (hk : k ∈ (survey s excluded).constraints.foreignKeys)
    (hr : (survey s excluded).relations.get? k.foreignRelation = some r) :
    ((survey s excluded).foreignKeysOf k.relation).get? k.name =
      some ⟨r.name, .ofList k.pairs⟩ := by
  refine (SortedMap.get?_ofList (consistent_foreignKeysOf hdistinct.constraints)).mpr ?_
  refine List.mem_filterMap.mpr ⟨k, List.mem_filter.mpr ⟨hk, beq_self_eq_true _⟩, ?_⟩
  rw [foreignItem?, hr]
  rfl

/-- A foreign key between exposed relations is resolved. -/
theorem mem_foreignKeys_of_links (hdistinct : s.NamesDistinct) {c : ConstraintRow}
    {owner target : ClassRow} {names foreignNames : List String}
    (h : s.Links excluded c owner target names foreignNames) :
    ⟨c.oid, c.schema, c.name, c.relation, names, c.foreignRelation, foreignNames⟩ ∈
      (survey s excluded).constraints.foreignKeys := by
  obtain ⟨_, r, _, cs, hr, hr_oid, -⟩ :=
    exists_shows_of_wins hdistinct.classes h.exposes_owner.wins h.exposes_owner.showable
  obtain ⟨_, q, _, ds, hq, hq_oid, -⟩ :=
    exists_shows_of_wins hdistinct.classes h.exposes_target.wins h.exposes_target.showable
  have hcs := hr.columns_eq
  have hds := hq.columns_eq
  rw [hr_oid, h.owner_eq] at hcs
  rw [hq_oid, h.target_eq] at hds
  exact mem_foreignKeys.mpr ⟨c, h.mem, Resolution.ofRow_eq_foreign_iff.mpr
    ⟨SortedMap.contains_of_get? hcs, h.kind_eq, SortedMap.contains_of_get? hds, h.length_eq, names,
      foreignNames, names?_of_names hdistinct.numbers hcs h.names,
      names?_of_names hdistinct.numbers hds h.foreignNames, rfl⟩⟩

end Survey

/-! ### Pairs stored by local column -/

/-- **Columns are paired by position exactly when no local column repeats.** -/
theorem Document.ForeignKey.pairedByPosition_iff {table : String} {names foreignNames : List String}
    (hlength : names.length = foreignNames.length) :
    PairedByPosition ⟨table, .ofList (names.zip foreignNames)⟩ names foreignNames ↔
      names.Nodup := by
  have hsize : (SortedMap.ofList (names.zip foreignNames)).size = names.dedup.length := by
    rw [SortedMap.size_ofList, List.map_fst_zip (Nat.le_of_eq hlength)]
  constructor
  · intro h
    have hdedup : names.dedup.length = names.length := hsize.symm.trans h.size_eq
    exact List.dedup_eq_self.mp ((List.dedup_sublist names).eq_of_length hdedup)
  · intro hnodup
    refine ⟨hsize.trans (by rw [List.dedup_eq_self.mpr hnodup]), fun i x y hx hy => ?_⟩
    refine (SortedMap.get?_ofList_zip hlength).mpr ⟨i, ⟨hx, fun j hj hjx => ?_⟩, hy⟩
    have hbound : i < names.length := (List.getElem?_eq_some_iff.mp hx).1
    have hij : i = j := (List.getElem?_inj hbound hnodup).mp (hx.trans hjx.symm)
    exact absurd hij (Nat.ne_of_lt hj)

/-- The pairs of a foreign key between exposed relations are stored one after another. -/
theorem Survey.exists_foreignKey {s : Snapshot} {excluded : List String}
    (hdistinct : s.NamesDistinct) {c : ConstraintRow} {owner target : ClassRow}
    {names foreignNames : List String} (h : s.Links excluded c owner target names foreignNames) :
    ∃ t, (s.resolve excluded).tables.get? owner.name = some t ∧
      t.foreignKeys.get? c.name = some ⟨target.name, .ofList (names.zip foreignNames)⟩ := by
  obtain ⟨t, r, schema, cs, hr, hr_oid, hr_name⟩ :=
    exists_shows_of_wins hdistinct.classes h.exposes_owner.wins h.exposes_owner.showable
  obtain ⟨_, q, _, _, hq, hq_oid, hq_name⟩ :=
    exists_shows_of_wins hdistinct.classes h.exposes_target.wins h.exposes_target.showable
  have hq_relation := hq.relation_eq
  rw [hq_oid, h.target_eq] at hq_relation
  have hkey := get?_foreignKeysOf hdistinct (mem_foreignKeys_of_links hdistinct h) hq_relation
  refine ⟨t, get?_tables.mpr ⟨?_, r, schema, cs, hr⟩, ?_⟩
  · rw [hr.table_eq]
    exact hr_name
  · rw [hr.table_eq, tableOf, hr_oid, h.owner_eq, ← hq_name]
    exact hkey

/-- **A foreign key between exposed relations is shown,** under its name at the table of its owner.
Each local column is matched with the column referenced at its last position. So the columns are
paired by position exactly when the key repeats no column. -/
theorem resolve_foreignKey (s : Snapshot) (excluded : List String) (hdistinct : s.NamesDistinct)
    (c : ConstraintRow) (owner target : ClassRow) (names foreignNames : List String)
    (h : s.Links excluded c owner target names foreignNames) :
    ∃ t f, (s.resolve excluded).tables.get? owner.name = some t ∧
      t.foreignKeys.get? c.name = some f ∧ f.table = target.name ∧
      (∀ x y, f.columns.get? x = some y ↔
        ∃ i, SortedMap.IsLastAt names i x ∧ foreignNames[i]? = some y) ∧
      f.columns.size = names.dedup.length ∧
      (f.PairedByPosition names foreignNames ↔ c.key.Nodup) := by
  have hlength : names.length = foreignNames.length := by
    rw [← h.names.length_eq, ← h.foreignNames.length_eq, h.length_eq]
  obtain ⟨t, ht, hf⟩ := Survey.exists_foreignKey hdistinct h
  refine ⟨t, _, ht, hf, rfl, fun x y => SortedMap.get?_ofList_zip hlength, ?_, ?_⟩
  · rw [SortedMap.size_ofList, List.map_fst_zip (Nat.le_of_eq hlength)]
  · rw [Document.ForeignKey.pairedByPosition_iff hlength]
    exact (List.rel_nodup (Snapshot.biUnique_names hdistinct) h.names).symm

/-- Visits to stores, which are numbered country by country. The columns of `key` reference the
country and the number of a store. -/
def visits (key : List Int16) : Snapshot where
  namespaces := [⟨2200, "public"⟩]
  classes := [⟨1, 2200, "stores", 'r'⟩, ⟨2, 2200, "visits", 'r'⟩]
  types := [⟨23, 11, "int4", 'b', 'N', 0⟩]
  attributes :=
    [⟨1, "country", 1, 23, true, false⟩, ⟨1, "number", 2, 23, true, false⟩,
      ⟨2, "store", 1, 23, true, false⟩, ⟨2, "country", 2, 23, true, false⟩]
  constraints := [⟨10, 2200, "visits_store", 2, 'f', key, 1, [1, 2]⟩]

/-- Country and number are matched in the order of the key, which is not that of the columns. -/
theorem resolve_visits :
    (visits [2, 1]).NamesDistinct ∧
      (visits [2, 1]).Links [] ⟨10, 2200, "visits_store", 2, 'f', [2, 1], 1, [1, 2]⟩
        ⟨2, 2200, "visits", 'r'⟩ ⟨1, 2200, "stores", 'r'⟩ ["country", "store"]
        ["country", "number"] ∧
      ∃ t f, ((visits [2, 1]).resolve []).tables.get? "visits" = some t ∧
        t.foreignKeys.get? "visits_store" = some f ∧ f.table = "stores" ∧
        f.PairedByPosition ["country", "store"] ["country", "number"] := by
  have hdistinct : (visits [2, 1]).NamesDistinct := ⟨by decide, by decide, by decide, by decide⟩
  have hlinks : (visits [2, 1]).Links [] ⟨10, 2200, "visits_store", 2, 'f', [2, 1], 1, [1, 2]⟩
      ⟨2, 2200, "visits", 'r'⟩ ⟨1, 2200, "stores", 'r'⟩ ["country", "store"]
      ["country", "number"] :=
    { mem := by decide
      kind_eq := rfl
      owner_eq := rfl
      target_eq := rfl
      exposes_owner := ⟨by decide, by decide⟩
      exposes_target := ⟨by decide, by decide⟩
      length_eq := rfl
      names := .cons (by decide) (.cons (by decide) .nil)
      foreignNames := .cons (by decide) (.cons (by decide) .nil) }
  obtain ⟨t, f, ht, hf, htable, -, -, hpaired⟩ :=
    resolve_foreignKey (visits [2, 1]) [] hdistinct _ _ _ _ _ hlinks
  exact ⟨hdistinct, hlinks, t, f, ht, hf, htable, hpaired.mpr (by decide)⟩

/-- A column that references both the country and the number is shown with the number alone. -/
theorem visits_lose_country :
    (visits [1, 1]).NamesDistinct ∧
      (visits [1, 1]).Links [] ⟨10, 2200, "visits_store", 2, 'f', [1, 1], 1, [1, 2]⟩
        ⟨2, 2200, "visits", 'r'⟩ ⟨1, 2200, "stores", 'r'⟩ ["store", "store"]
        ["country", "number"] ∧
      ∃ t f, ((visits [1, 1]).resolve []).tables.get? "visits" = some t ∧
        t.foreignKeys.get? "visits_store" = some f ∧ f.columns.toList = [("store", "number")] ∧
        ¬ f.PairedByPosition ["store", "store"] ["country", "number"] := by
  have hdistinct : (visits [1, 1]).NamesDistinct := ⟨by decide, by decide, by decide, by decide⟩
  have hlinks : (visits [1, 1]).Links [] ⟨10, 2200, "visits_store", 2, 'f', [1, 1], 1, [1, 2]⟩
      ⟨2, 2200, "visits", 'r'⟩ ⟨1, 2200, "stores", 'r'⟩ ["store", "store"]
      ["country", "number"] :=
    { mem := by decide
      kind_eq := rfl
      owner_eq := rfl
      target_eq := rfl
      exposes_owner := ⟨by decide, by decide⟩
      exposes_target := ⟨by decide, by decide⟩
      length_eq := rfl
      names := .cons (by decide) (.cons (by decide) .nil)
      foreignNames := .cons (by decide) (.cons (by decide) .nil) }
  obtain ⟨t, ht, hf⟩ := Survey.exists_foreignKey hdistinct hlinks
  exact ⟨hdistinct, hlinks, t, _, ht, hf, by decide, fun h => absurd h.size_eq (by decide)⟩

end SchemaSurvey
