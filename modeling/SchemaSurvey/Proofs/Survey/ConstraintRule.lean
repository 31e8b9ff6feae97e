/-
  `ConstraintRule` — which constraints a table shows.

  The rule is stated on the rows of the catalog, apart from the way a survey finds it. A row is a key
  of a relation if it is about that relation and has numbers of live columns only
  (`Snapshot.IsKey`). A primary key or unique constraint needs nothing more; a foreign key must
  reference an exposed relation, with as many live columns of it (`Snapshot.IsForeignKey`). One
  number that fails is enough to drop the row, and dropping a row does not touch another
  (`resolve_constraints`).

  Rows are about the relation of an oid, and tables are shown by name. That no relation receives the
  constraints of another, not even of a hidden one with its name, is a matter of oids alone: with
  any other rows about the other relations the table is the same table (`Survey.shows_congr`).
-/
import SchemaSurvey.Proofs.Survey.Exclusion
import SchemaSurvey.Proofs.Survey.ForeignKeys

namespace SchemaSurvey

open Catalog

/-! ### The rule -/

namespace Catalog.Snapshot

/-- The number is that of a live column. -/
def IsLive (s : Snapshot) (relation : Oid) (number : Int16) : Prop :=
  ∃ a ∈ s.attributes, a.relation = relation ∧ a.isLive = true ∧ a.number = number

instance (s : Snapshot) (relation : Oid) (number : Int16) : Decidable (s.IsLive relation number) :=
  inferInstanceAs (Decidable (∃ a ∈ s.attributes, _))

/-- The row `k` is about the relation `c` and constrains live columns of it. -/
structure IsKey (s : Snapshot) (c : ClassRow) (k : ConstraintRow) : Prop where
  mem : k ∈ s.constraints
  relation_eq : k.relation = c.oid
  live : ∀ number ∈ k.key, s.IsLive c.oid number

/-- The row `k` is a primary key or a unique constraint of the relation `c`. -/
structure IsUniqueness (s : Snapshot) (c : ClassRow) (k : ConstraintRow) : Prop
    extends s.IsKey c k where
  kind_eq : k.kind = 'p' ∨ k.kind = 'u'

/-- The row `k` is a foreign key of the relation `c`, and references live columns of an exposed
relation. -/
structure IsForeignKey (s : Snapshot) (excluded : List String) (c target : ClassRow)
    (k : ConstraintRow) : Prop extends s.IsKey c k where
  kind_eq : k.kind = 'f'
  exposes_target : s.Exposes excluded target
  target_eq : k.foreignRelation = target.oid
  length_eq : k.key.length = k.foreignKey.length
  foreignLive : ∀ number ∈ k.foreignKey, s.IsLive target.oid number

/-! The rule can be computed. -/

instance (s : Snapshot) (excluded : List String) (c : ClassRow) : Decidable (s.Exposes excluded c) :=
  decidable_of_iff (s.Wins excluded c.name c ∧ s.Showable c)
    ⟨fun ⟨hwins, hshowable⟩ => ⟨hwins, hshowable⟩, fun ⟨hwins, hshowable⟩ => ⟨hwins, hshowable⟩⟩

/-- Decided number by number along the list, not by going through all numbers there are. -/
instance (s : Snapshot) (relation : Oid) (numbers : List Int16) :
    Decidable (∀ number ∈ numbers, s.IsLive relation number) :=
  List.decidableBAll _ numbers

instance (s : Snapshot) (c : ClassRow) (k : ConstraintRow) : Decidable (s.IsKey c k) :=
  decidable_of_iff
    (k ∈ s.constraints ∧ k.relation = c.oid ∧ ∀ number ∈ k.key, s.IsLive c.oid number)
    ⟨fun ⟨hmem, hrelation, hlive⟩ => ⟨hmem, hrelation, hlive⟩,
      fun ⟨hmem, hrelation, hlive⟩ => ⟨hmem, hrelation, hlive⟩⟩

instance (s : Snapshot) (c : ClassRow) (k : ConstraintRow) : Decidable (s.IsUniqueness c k) :=
  decidable_of_iff (s.IsKey c k ∧ (k.kind = 'p' ∨ k.kind = 'u'))
    ⟨fun ⟨hkey, hkind⟩ => ⟨hkey, hkind⟩, fun ⟨hkey, hkind⟩ => ⟨hkey, hkind⟩⟩

instance (s : Snapshot) (excluded : List String) (c target : ClassRow) (k : ConstraintRow) :
    Decidable (s.IsForeignKey excluded c target k) :=
  decidable_of_iff
    (s.IsKey c k ∧ k.kind = 'f' ∧ s.Exposes excluded target ∧ k.foreignRelation = target.oid ∧
      k.key.length = k.foreignKey.length ∧ ∀ number ∈ k.foreignKey, s.IsLive target.oid number)
    ⟨fun ⟨hkey, hkind, hexposes, htarget, hlength, hlive⟩ =>
        ⟨hkey, hkind, hexposes, htarget, hlength, hlive⟩,
      fun ⟨hkey, hkind, hexposes, htarget, hlength, hlive⟩ =>
        ⟨hkey, hkind, hexposes, htarget, hlength, hlive⟩⟩

/-! Names and numbers of live columns. -/

variable {s : Snapshot} {oid : Oid}

theorem isLive_iff {number : Int16} : s.IsLive oid number ↔ ∃ name, s.Names oid number name := by
  constructor
  · rintro ⟨a, ha, hrelation, hlive, hnumber⟩
    exact ⟨a.name, a, ha, hrelation, hlive, hnumber, rfl⟩
  · rintro ⟨name, a, ha, hrelation, hlive, hnumber, -⟩
    exact ⟨a, ha, hrelation, hlive, hnumber⟩

/-- Numbers of live columns, and no others, have names. -/
theorem forall_isLive_iff {numbers : List Int16} :
    (∀ number ∈ numbers, s.IsLive oid number) ↔
      ∃ names, List.Forall₂ (s.Names oid) numbers names := by
  simp only [isLive_iff]
  induction numbers with
  | nil => simp
  | cons number numbers ih =>
    rw [List.forall_mem_cons, ih]
    constructor
    · rintro ⟨⟨name, hname⟩, names, hnames⟩
      exact ⟨name :: names, .cons hname hnames⟩
    · rintro ⟨_, hnames⟩
      obtain ⟨name, names, hname, hrest, -⟩ := List.forall₂_cons_left_iff.mp hnames
      exact ⟨⟨name, hname⟩, names, hrest⟩

end Catalog.Snapshot

namespace Survey

variable {s : Snapshot} {excluded : List String} {oid : Oid} {name : String}

/-! ### Relations and their columns -/

/-- **A table shows an exposed relation.** -/
theorem exists_exposes_of_shows {t : Document.Table} {r : Relation} {schema : Schema}
    {cs : List Survey.Column} (h : (survey s excluded).Shows t r schema cs) :
    ∃ c, s.Exposes excluded c ∧ c.name = t.name ∧ c.oid = r.oid := by
  obtain ⟨c, hwins, hshowable, -⟩ := winner_of_shows h
  obtain ⟨-, hoid, -⟩ := Relation.ofRow?_eq_some_iff.mp (ofRow?_of_shows h hwins)
  exact ⟨c, ⟨hwins.name_eq ▸ hwins, hshowable⟩, hwins.name_eq, hoid.symm⟩

/-- Exposed relations have distinct names. -/
theorem eq_of_exposes {c d : ClassRow} (hc : s.Exposes excluded c) (hd : s.Exposes excluded d)
    (hname : c.name = d.name) : c = d :=
  wins_unique hc.wins (hname ▸ hd.wins)

/-- **A table shows the one row that is exposed under its name.** -/
theorem exists_exposed {name : String} {t : Document.Table}
    (ht : (s.resolve excluded).tables.get? name = some t) :
    ∃ c r schema cs, s.Exposes excluded c ∧ c.name = name ∧
      (survey s excluded).Shows t r schema cs ∧ r.oid = c.oid ∧
      ∀ d, s.Exposes excluded d → d.name = name → d = c := by
  obtain ⟨rfl, r, schema, cs, hshows⟩ := get?_tables.mp ht
  obtain ⟨c, hc, hc_name, hc_oid⟩ := exists_exposes_of_shows hshows
  exact ⟨c, r, schema, cs, hc, hc_name, hshows, hc_oid.symm,
    fun d hd hd_name => eq_of_exposes hd hc (hd_name.trans hc_name.symm)⟩

/-- **The relations that have columns are the exposed ones.** -/
theorem contains_columns_iff (hclasses : (s.classes.map ClassRow.oid).Nodup) :
    (survey s excluded).columns.contains oid = true ↔ ∃ c, s.Exposes excluded c ∧ oid = c.oid := by
  constructor
  · intro h
    obtain ⟨cs, hcs⟩ := SortedMap.contains_iff.mp h
    obtain ⟨t, r, schema, hr_oid, hshows, -⟩ := exists_shows hcs
    obtain ⟨c, hc, -, hc_oid⟩ := exists_exposes_of_shows hshows
    exact ⟨c, hc, (hc_oid.trans hr_oid).symm⟩
  · rintro ⟨c, hc, rfl⟩
    obtain ⟨t, r, schema, cs, hshows, hr_oid, -⟩ :=
      exists_shows_of_wins hclasses hc.wins hc.showable
    exact SortedMap.contains_of_get? (hr_oid ▸ hshows.columns_eq)

/-- **The numbers that can all be named are those of live columns.** -/
theorem names?_eq_some_iff_names
    (hnumbers : (s.attributes.map fun a => (a.relation, a.number)).Nodup)
    (hexposed : (survey s excluded).columns.contains oid = true) {numbers : List Int16}
    {names : List String} :
    (survey s excluded).columns.names? oid numbers = some names ↔
      List.Forall₂ (s.Names oid) numbers names := by
  obtain ⟨cs, hcs⟩ := SortedMap.contains_iff.mp hexposed
  refine ⟨fun h => ?_, names?_of_names hnumbers hcs⟩
  refine (Columns.names?_eq_some_iff.mp h).imp fun number name => ?_
  rintro ⟨c, hc, rfl⟩
  exact names_of_column? hc

/-! ### Constraints of an exposed relation -/

section

variable {c : ClassRow} (hnumbers : (s.attributes.map fun a => (a.relation, a.number)).Nodup)
  (hexposed : (survey s excluded).columns.contains c.oid = true)

include hnumbers hexposed

/-- **The primary keys and unique constraints** that a table shows, with their columns. -/
theorem get?_uniquenessOf_iff
    (hnames : (s.constraints.map fun k => (k.relation, k.name)).Nodup) {names : List String} :
    ((survey s excluded).uniquenessOf c.oid).get? name = some names ↔
      ∃ k, s.IsUniqueness c k ∧ k.name = name ∧ List.Forall₂ (s.Names c.oid) k.key names := by
  constructor
  · intro h
    obtain ⟨u, hu, hrelation, hname, hu_names⟩ := uniqueness_of_get?_uniquenessOf h
    obtain ⟨k, hk, hku⟩ := mem_uniqueness.mp hu
    obtain ⟨-, hkind, _, hk_names, rfl⟩ := Resolution.ofRow_eq_unique_iff.mp hku
    obtain rfl : _ = names := hu_names
    rw [show k.relation = c.oid from hrelation, names?_eq_some_iff_names hnumbers hexposed]
      at hk_names
    exact ⟨k, ⟨⟨hk, hrelation, Snapshot.forall_isLive_iff.mpr ⟨_, hk_names⟩⟩, hkind⟩, hname,
      hk_names⟩
  · rintro ⟨k, hk, rfl, hk_names⟩
    refine (SortedMap.get?_ofList (consistent_uniquenessOf hnames)).mpr ?_
    refine List.mem_map.mpr ⟨⟨k.oid, k.schema, k.name, k.relation, names⟩, ?_, rfl⟩
    refine List.mem_filter.mpr ⟨mem_uniqueness.mpr ⟨k, hk.mem, ?_⟩, beq_iff_eq.mpr hk.relation_eq⟩
    refine Resolution.ofRow_eq_unique_iff.mpr ⟨?_, hk.kind_eq, names, ?_, rfl⟩
    · rw [hk.relation_eq, hexposed]
    · rw [hk.relation_eq, names?_eq_some_iff_names hnumbers hexposed]
      exact hk_names

theorem contains_uniquenessOf_iff
    (hnames : (s.constraints.map fun k => (k.relation, k.name)).Nodup) :
    ((survey s excluded).uniquenessOf c.oid).contains name = true ↔
      ∃ k, s.IsUniqueness c k ∧ k.name = name := by
  rw [SortedMap.contains_iff]
  simp only [get?_uniquenessOf_iff hnumbers hexposed hnames]
  constructor
  · rintro ⟨_, k, hk, hname, -⟩
    exact ⟨k, hk, hname⟩
  · rintro ⟨k, hk, hname⟩
    obtain ⟨names, hk_names⟩ := Snapshot.forall_isLive_iff.mp hk.live
    exact ⟨names, k, hk, hname, hk_names⟩

/-- What is listed under the name of a constraint are the columns of its key. -/
theorem names_of_get?_uniquenessOf
    (hnames : (s.constraints.map fun k => (k.relation, k.name)).Nodup) {k : ConstraintRow}
    (hk : s.IsUniqueness c k) {names : List String}
    (h : ((survey s excluded).uniquenessOf c.oid).get? k.name = some names) :
    List.Forall₂ (s.Names c.oid) k.key names := by
  obtain ⟨l, hl, hl_name, hl_names⟩ := (get?_uniquenessOf_iff hnumbers hexposed hnames).mp h
  have hlk : l = k := List.inj_on_of_nodup_map hnames hl.mem hk.mem
    (Prod.ext (hl.relation_eq.trans hk.relation_eq.symm) hl_name)
  exact hlk ▸ hl_names

/-- **The foreign keys** that a table shows. -/
theorem contains_foreignKeysOf_iff (hclasses : (s.classes.map ClassRow.oid).Nodup) :
    ((survey s excluded).foreignKeysOf c.oid).contains name = true ↔
      ∃ k target, s.IsForeignKey excluded c target k ∧ k.name = name := by
  rw [foreignKeysOf, SortedMap.contains_ofList]
  constructor
  · rintro ⟨e, he, rfl⟩
    obtain ⟨f, hf, hfe⟩ := List.mem_filterMap.mp he
    obtain ⟨r, -, rfl⟩ := Option.map_eq_some_iff.mp hfe
    obtain ⟨hf, hrelation⟩ := List.mem_filter.mp hf
    obtain ⟨k, hk, hkf⟩ := mem_foreignKeys.mp hf
    obtain ⟨-, hkind, htarget, hlength, names, foreignNames, hnames, hforeign, rfl⟩ :=
      Resolution.ofRow_eq_foreign_iff.mp hkf
    have hk_relation : k.relation = c.oid := beq_iff_eq.mp hrelation
    obtain ⟨target, htarget_exposed, htarget_eq⟩ := (contains_columns_iff hclasses).mp htarget
    rw [hk_relation, names?_eq_some_iff_names hnumbers hexposed] at hnames
    rw [names?_eq_some_iff_names hnumbers htarget, htarget_eq] at hforeign
    exact ⟨k, target, ⟨⟨hk, hk_relation, Snapshot.forall_isLive_iff.mpr ⟨_, hnames⟩⟩, hkind,
      htarget_exposed, htarget_eq, hlength, Snapshot.forall_isLive_iff.mpr ⟨_, hforeign⟩⟩, rfl⟩
  · rintro ⟨k, target, h, rfl⟩
    have htarget : (survey s excluded).columns.contains k.foreignRelation = true :=
      (contains_columns_iff hclasses).mpr ⟨target, h.exposes_target, h.target_eq⟩
    obtain ⟨names, hnames⟩ := Snapshot.forall_isLive_iff.mp h.live
    obtain ⟨foreignNames, hforeign⟩ := Snapshot.forall_isLive_iff.mp h.foreignLive
    rw [← names?_eq_some_iff_names hnumbers hexposed, ← h.relation_eq] at hnames
    rw [← h.target_eq, ← names?_eq_some_iff_names hnumbers htarget] at hforeign
    -- A relation that has columns is one that is kept, so the key can name it.
    obtain ⟨_, hcs⟩ := SortedMap.contains_iff.mp htarget
    obtain ⟨r, hr⟩ := SortedMap.contains_iff.mp (get?_columns.mp hcs).1
    have hk : Resolution.ofRow (survey s excluded).columns k = .foreign
        ⟨k.oid, k.schema, k.name, k.relation, names, k.foreignRelation, foreignNames⟩ :=
      Resolution.ofRow_eq_foreign_iff.mpr ⟨by rw [h.relation_eq, hexposed], h.kind_eq, htarget,
        h.length_eq, names, foreignNames, hnames, hforeign, rfl⟩
    refine ⟨(k.name, ⟨r.name, .ofList (names.zip foreignNames)⟩), ?_, rfl⟩
    refine List.mem_filterMap.mpr ⟨_, List.mem_filter.mpr ⟨mem_foreignKeys.mpr ⟨k, h.mem, hk⟩,
      beq_iff_eq.mpr h.relation_eq⟩, ?_⟩
    rw [hr]
    rfl

end

/-! ### Constraints of other relations -/

/-- **A table shows the constraints about its own relation only.** -/
theorem shows_congr {rows : List ConstraintRow} {t : Document.Table} {r : Relation}
    {schema : Schema} {cs : List Survey.Column} (h : (survey s excluded).Shows t r schema cs)
    (hrows : s.constraints.filter (fun k => k.relation == r.oid) =
      rows.filter fun k => k.relation == r.oid) :
    (survey { s with constraints := rows } excluded).Shows t r schema cs := by
  have hsame : s.SameRows { s with constraints := rows } r.oid := ⟨rfl, rfl, hrows⟩
  have huniqueness : (survey s excluded).uniquenessOf r.oid =
      (survey { s with constraints := rows } excluded).uniquenessOf r.oid :=
    uniquenessOf_congr rfl hsame
  have hforeign : (survey s excluded).foreignKeysOf r.oid =
      (survey { s with constraints := rows } excluded).foreignKeysOf r.oid :=
    SortedMap.ext_get? fun name => get?_foreignKeysOf_congr rfl rfl hsame fun _ _ _ _ => rfl
  refine ⟨h.relation_eq, h.schema_eq, h.columns_eq, ?_⟩
  rw [h.table_eq, tableOf, huniqueness, hforeign]
  rfl

end Survey

/-- **The constraints of a table are those of its relation that can be resolved.** A primary key or
unique constraint lists the live columns of its key, in their order. A foreign key needs live
columns on both sides, of exposed relations. Whatever constraints other relations have, the table is
the same. -/
theorem resolve_constraints (s : Snapshot) (excluded : List String)
    (hclasses : (s.classes.map ClassRow.oid).Nodup)
    (hnumbers : (s.attributes.map fun a => (a.relation, a.number)).Nodup)
    (hnames : (s.constraints.map fun k => (k.relation, k.name)).Nodup) (name : String)
    (t : Document.Table) (ht : (s.resolve excluded).tables.get? name = some t) :
    (∃ c, s.Exposes excluded c ∧ c.name = name) ∧
    ∀ c, s.Exposes excluded c → c.name = name →
      (∀ x, t.uniqueness.contains x = true ↔ ∃ k, s.IsUniqueness c k ∧ k.name = x) ∧
      (∀ k columns, s.IsUniqueness c k → t.uniqueness.get? k.name = some columns →
        List.Forall₂ (s.Names c.oid) k.key columns) ∧
      (∀ x, t.foreignKeys.contains x = true ↔
        ∃ k target, s.IsForeignKey excluded c target k ∧ k.name = x) ∧
      ∀ rows, (s.constraints.filter fun k => k.relation == c.oid) =
          (rows.filter fun k => k.relation == c.oid) →
        (({ s with constraints := rows } : Snapshot).resolve excluded).tables.get? name = some t := by
  obtain ⟨ht_name, r, schema, cs, hshows⟩ := Survey.get?_tables.mp ht
  obtain ⟨d, hd, hd_name, hd_oid⟩ := Survey.exists_exposes_of_shows hshows
  rw [ht_name] at hd_name
  refine ⟨⟨d, hd, hd_name⟩, fun c hc hc_name => ?_⟩
  obtain rfl : c = d := Survey.eq_of_exposes hc hd (hc_name.trans hd_name.symm)
  have hexposed := (Survey.contains_columns_iff hclasses).mpr ⟨c, hc, rfl⟩
  have huniqueness : t.uniqueness = (survey s excluded).uniquenessOf c.oid := by
    rw [hshows.table_eq, hd_oid, Survey.tableOf]
  have hforeign : t.foreignKeys = (survey s excluded).foreignKeysOf c.oid := by
    rw [hshows.table_eq, hd_oid, Survey.tableOf]
  refine ⟨fun x => ?_, fun k columns hk hcolumns => ?_, fun x => ?_, fun rows hrows => ?_⟩
  · rw [huniqueness]
    exact Survey.contains_uniquenessOf_iff hnumbers hexposed hnames
  · rw [huniqueness] at hcolumns
    exact Survey.names_of_get?_uniquenessOf hnumbers hexposed hnames hk hcolumns
  · rw [hforeign]
    exact Survey.contains_foreignKeysOf_iff hnumbers hexposed hclasses
  · rw [hd_oid] at hrows
    exact Survey.get?_tables.mpr ⟨ht_name, r, schema, cs, Survey.shows_congr hshows hrows⟩

open Catalog.Sample.Oids in
/-- The shop, with other orders in `archive` that are hidden by those in `public`. Two constraints
of the shown orders cannot be resolved: a key with a number that no column has, and a foreign key to
the hidden orders. -/
def ledger : Snapshot :=
  let b := ({} : Sample).shop
  let hidden := b.nextOid
  let b := b.table archive "orders" [⟨"id", int4, true⟩, ⟨"total", numeric, false⟩]
  let b := b.primaryKey hidden "archived_orders_pkey" [1]
  let b := b.unique 60004 "orders_batch_key" [1, 4]
  (b.foreignKey 60004 "orders_archived_fkey" [1] hidden [1]).snapshot

/-- The orders have their primary key and the foreign key to customers, and no other constraint. -/
theorem resolve_ledger :
    (ledger.classes.map ClassRow.oid).Nodup ∧
      (ledger.attributes.map fun a => (a.relation, a.number)).Nodup ∧
      (ledger.constraints.map fun k => (k.relation, k.name)).Nodup ∧
      ∃ t, (ledger.resolve Sample.excluded).tables.get? "orders" = some t ∧
        (∀ x, t.uniqueness.contains x = true ↔ x = "orders_pkey") ∧
        ∀ x, t.foreignKeys.contains x = true ↔ x = "orders_customer_id_fkey" := by
  have hclasses : (ledger.classes.map ClassRow.oid).Nodup := by decide
  have hnumbers : (ledger.attributes.map fun a => (a.relation, a.number)).Nodup := by decide
  have hnames : (ledger.constraints.map fun k => (k.relation, k.name)).Nodup := by decide
  let orders : ClassRow := ⟨60004, Sample.Oids.publicSchema, "orders", 'r'⟩
  have horders : ledger.Exposes Sample.excluded orders := by decide
  obtain ⟨t, ht⟩ := Survey.exists_table hclasses horders.wins horders.showable
  obtain ⟨-, hrule⟩ :=
    resolve_constraints ledger Sample.excluded hclasses hnumbers hnames "orders" t ht
  obtain ⟨huniqueness, -, hforeign, -⟩ := hrule orders horders rfl
  refine ⟨hclasses, hnumbers, hnames, t, ht, fun x => ?_, fun x => ?_⟩
  · rw [huniqueness]
    constructor
    · rintro ⟨k, hk, rfl⟩
      have hkept : ∀ k ∈ ledger.constraints, ledger.IsUniqueness orders k →
          k.name = "orders_pkey" := by decide
      exact hkept k hk.mem hk
    · rintro rfl
      exact ⟨⟨60005, Sample.Oids.publicSchema, "orders_pkey", 60004, 'p', [1], 0, []⟩, by decide, rfl⟩
  · rw [hforeign]
    constructor
    · rintro ⟨k, target, hk, rfl⟩
      have hkept : ∀ k ∈ ledger.constraints, ∀ target ∈ ledger.classes,
          ledger.IsForeignKey Sample.excluded orders target k →
            k.name = "orders_customer_id_fkey" := by decide
      exact hkept k hk.mem target hk.exposes_target.wins.mem hk
    · rintro rfl
      exact ⟨⟨60006, Sample.Oids.publicSchema, "orders_customer_id_fkey", 60004, 'f', [2], 60001,
        [1]⟩, ⟨60001, Sample.Oids.publicSchema, "customers", 'r'⟩, by decide, rfl⟩

end SchemaSurvey
