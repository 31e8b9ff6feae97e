/-
  `Accounting` — what a survey reports adds up.

  The events of a survey report counts, and every row that a stage turns away is in one of them. A
  relation is shown, hidden by a column, or without live columns (`Exposure.ofRows_eq_bare_iff`), so
  the relations are as many as these three together. A constraint of an exposed relation becomes a
  key, a foreign key, or is dropped. An overload is listed or finds another one listed in its place
  (`AggregateCatalog.displaced`); this is counted step by step as overloads are added
  (`AggregateCatalog.entryCount_add`), and over a whole run the two counts make up all overloads
  (`AggregateCatalog.entryCount_foldl_add`).

  `events_balance` has the equations for the numbers that are reported, and says which relations the
  lines about hidden relations name. Nothing is assumed of the snapshot.
-/
import SchemaSurvey.Proofs.Survey.Unread

namespace SchemaSurvey

open Catalog

namespace Catalog.Snapshot

/-- The row is a live column of the relation, and no usable type has its oid. -/
structure Bars (s : Snapshot) (relation : Oid) (a : AttributeRow) : Prop where
  relation_eq : a.relation = relation
  live : a.isLive = true
  unusable : ∀ t ∈ s.types, t.oid = a.type → t.isUsable = false

instance (s : Snapshot) (relation : Oid) (a : AttributeRow) : Decidable (s.Bars relation a) :=
  decidable_of_iff
    (a.relation = relation ∧ a.isLive = true ∧
      ∀ t ∈ s.types, t.oid = a.type → t.isUsable = false)
    ⟨fun ⟨hrelation, hlive, hunusable⟩ => ⟨hrelation, hlive, hunusable⟩,
      fun ⟨hrelation, hlive, hunusable⟩ => ⟨hrelation, hlive, hunusable⟩⟩

/-- The first row that bars the relation is of this type. -/
def HiddenBy (s : Snapshot) (relation type : Oid) : Prop :=
  ∃ before a after, s.attributes = before ++ a :: after ∧ s.Bars relation a ∧ a.type = type ∧
    ∀ b ∈ before, ¬ s.Bars relation b

end Catalog.Snapshot

namespace Survey

/-! ### Relations -/

namespace Exposure

variable {types : SortedMap Oid ScalarType} {live : List AttributeRow}

/-- A relation is hidden by the first live column of a type that is not listed. -/
theorem hiddenBy?_ofRows :
    (ofRows types live).hiddenBy? =
      (live.find? fun a => !types.contains a.type).map AttributeRow.type := by
  unfold ofRows
  cases live.find? fun a => !types.contains a.type with
  | some a => rfl
  | none => cases live.filterMap (Column.ofRow? types) <;> rfl

/-- A relation is bare if it has no live columns. -/
theorem ofRows_eq_bare_iff : ofRows types live = .bare ↔ live = [] := by
  constructor
  · intro hbare
    by_contra hne
    have hnot_hidden : (ofRows types live).hiddenBy? = none := by
      rw [hbare]
      rfl
    rw [hiddenBy?_ofRows, Option.map_eq_none_iff] at hnot_hidden
    have htyped : ∀ a ∈ live, types.contains a.type = true := fun a ha => by
      simpa using List.find?_eq_none.mp hnot_hidden a ha
    have hcolumns := columns?_ofRows.mpr ⟨hne, htyped, rfl⟩
    rw [hbare] at hcolumns
    cases hcolumns
  · rintro rfl
    rfl

/-- Every relation is shown, hidden or bare. -/
theorem length_eq_countP (l : List Exposure) :
    l.length = (l.countP fun e => e.columns?.isSome) + (l.countP fun e => e.hiddenBy?.isSome) +
      l.countP fun e => e = .bare := by
  induction l with
  | nil => rfl
  | cons e l ih =>
    simp only [List.length_cons, List.countP_cons, ih]
    cases e <;> simp [columns?, hiddenBy?] <;> omega

end Exposure

variable {s : Snapshot} {excluded : List String} {oid : Oid}

/-! ### Hidden relations -/

theorem contains_types_eq_false_iff {type : Oid} :
    (survey s excluded).types.contains type = false ↔
      ∀ t ∈ s.types, t.oid = type → t.isUsable = false := by
  rw [← Bool.not_eq_true]
  show ¬ (ScalarType.ofRows s.types).contains type = true ↔ _
  rw [ScalarType.contains_ofRows]
  simp only [not_exists, not_and, Bool.not_eq_true]

/-- The first live row of a type that is not listed is the first row that bars the relation. -/
theorem find?_liveRows :
    ((liveRows s.attributes oid).find? fun a => !(survey s excluded).types.contains a.type) =
      s.attributes.find? fun a => s.Bars oid a := by
  rw [liveRows, List.find?_filter]
  congr 1
  funext a
  apply decide_eq_decide.mpr
  rw [Bool.not_eq_true', contains_types_eq_false_iff, Bool.and_eq_true, beq_iff_eq, and_assoc]
  exact ⟨fun ⟨hrelation, hlive, hall⟩ => ⟨hrelation, hlive, hall⟩,
    fun ⟨hrelation, hlive, hall⟩ => ⟨hrelation, hlive, hall⟩⟩

/-- **A relation is hidden by the first row that bars it.** -/
theorem hiddenBy_iff (excluded : List String) {type : Oid} :
    (Exposure.ofRows (survey s excluded).types (liveRows s.attributes oid)).hiddenBy? =
      some type ↔ s.HiddenBy oid type := by
  rw [Exposure.hiddenBy?_ofRows, find?_liveRows, Option.map_eq_some_iff]
  simp only [List.find?_eq_some_iff_append, decide_eq_true_eq, Bool.not_eq_true',
    decide_eq_false_iff_not]
  constructor
  · rintro ⟨a, ⟨ha, before, after, hrows, hbefore⟩, htype⟩
    exact ⟨before, a, after, hrows, ha, htype, hbefore⟩
  · rintro ⟨before, a, after, hrows, ha, htype, hbefore⟩
    exact ⟨a, ⟨ha, before, after, hrows, hbefore⟩, htype⟩

theorem get?_hidden {type : Oid} :
    (survey s excluded).hidden.get? oid = some type ↔
      (survey s excluded).relations.contains oid = true ∧ s.HiddenBy oid type := by
  rw [hidden, SortedMap.get?_filterMap, ← hiddenBy_iff excluded, SortedMap.contains]
  show ((Exposure.ofRelations s.attributes (survey s excluded).relations
    (survey s excluded).types).get? oid).bind _ = _ ↔ _
  rw [Exposure.ofRelations, SortedMap.get?_map]
  cases (survey s excluded).relations.get? oid <;> simp

/-- The hidden relations, each with the type that hides it. -/
def hiddenRelations (v : Survey) : List (Relation × Oid) :=
  v.hidden.toList.filterMap fun entry => (v.relations.get? entry.1).map (·, entry.2)

theorem mem_hiddenRelations {r : Relation} {type : Oid} :
    (r, type) ∈ (survey s excluded).hiddenRelations ↔
      (survey s excluded).relations.get? r.oid = some r ∧ s.HiddenBy r.oid type := by
  rw [hiddenRelations, List.mem_filterMap]
  constructor
  · rintro ⟨⟨oid, type'⟩, hentry, hr⟩
    obtain ⟨r', hr', heq⟩ := Option.map_eq_some_iff.mp hr
    obtain ⟨rfl, rfl⟩ := Prod.mk.inj heq
    obtain ⟨-, hhidden⟩ := get?_hidden.mp (SortedMap.mem_toList_iff.mp hentry)
    obtain rfl : r'.oid = oid := oid_of_get?_relations hr'
    exact ⟨hr', hhidden⟩
  · rintro ⟨hr, hhidden⟩
    have hget := get?_hidden.mpr ⟨SortedMap.contains_of_get? hr, hhidden⟩
    exact ⟨(r.oid, type), SortedMap.mem_toList_iff.mpr hget, by rw [hr, Option.map_some]⟩

/-- Hidden relations ascend by oid. -/
theorem pairwise_hiddenRelations :
    (survey s excluded).hiddenRelations.Pairwise fun h k => h.1.oid < k.1.oid := by
  rw [hiddenRelations, List.pairwise_filterMap]
  refine (survey s excluded).hidden.sorted.imp fun hlt h hh k hk => ?_
  obtain ⟨r, hr, rfl⟩ := Option.map_eq_some_iff.mp hh
  obtain ⟨q, hq, rfl⟩ := Option.map_eq_some_iff.mp hk
  rw [oid_of_get?_relations hr, oid_of_get?_relations hq]
  exact Std.compare_eq_lt.mp hlt

theorem length_hiddenRelations :
    (survey s excluded).hiddenRelations.length = (survey s excluded).hidden.size := by
  rw [hiddenRelations, List.length_filterMap_eq_countP, SortedMap.size, List.countP_eq_length]
  rintro ⟨oid, type⟩ hentry
  obtain ⟨hcontains, -⟩ := get?_hidden.mp (SortedMap.mem_toList_iff.mp hentry)
  rwa [Option.isSome_map]

/-! ### Tables -/

/-- Every relation with columns has a table, under the name of the relation. -/
theorem exists_tableEntry {entry : Oid × List Column}
    (hentry : entry ∈ (survey s excluded).columns.toList) :
    ∃ t, (survey s excluded).table? entry.1 entry.2 = some t ∧
      ∃ r, (survey s excluded).relations.get? entry.1 = some r ∧ r.name = t.name := by
  obtain ⟨t, r, schema, hoid, hshows, htable⟩ := exists_shows (SortedMap.mem_toList_iff.mp hentry)
  exact ⟨t, htable, r, hoid ▸ hshows.relation_eq, by rw [hshows.table_eq, tableOf]⟩

/-- Tables of different relations have different names. -/
theorem nodup_tableNames :
    (((survey s excluded).columns.toList.filterMap fun entry =>
      ((survey s excluded).table? entry.1 entry.2).map fun t => (t.name, t)).map
        Prod.fst).Nodup := by
  rw [List.map_filterMap, List.Nodup, List.pairwise_filterMap]
  refine (survey s excluded).columns.sorted.imp_of_mem fun {e f} he hf hlt x hx y hy hxy => ?_
  obtain ⟨t, ht, r, hr, hr_name⟩ := exists_tableEntry he
  obtain ⟨u, hu, q, hq, hq_name⟩ := exists_tableEntry hf
  rw [ht] at hx
  rw [hu] at hy
  obtain rfl : t.name = x := Option.some.inj hx
  obtain rfl : u.name = y := Option.some.inj hy
  -- Entries of one name would be of one relation, but their oids ascend.
  have hoid : e.1 = f.1 :=
    Relation.oid_eq_of_name_eq hr hq (hr_name.trans (hxy.trans hq_name.symm))
  exact SortedMap.ne_of_compare_eq_lt hlt hoid

/-- **There are as many tables as relations with columns,** since these have distinct names. -/
theorem size_tables :
    (survey s excluded).tables.size = (survey s excluded).columns.size := by
  have hlength : ((survey s excluded).columns.toList.filterMap fun entry =>
      ((survey s excluded).table? entry.1 entry.2).map fun t => (t.name, t)).length =
        (survey s excluded).columns.size := by
    rw [List.length_filterMap_eq_countP, SortedMap.size, List.countP_eq_length]
    intro entry hentry
    obtain ⟨t, ht, -⟩ := exists_tableEntry hentry
    rw [ht]
    rfl
  rw [tables, SortedMap.size_ofList, nodup_tableNames.dedup, List.length_map, hlength]

/-- **Every relation is accounted for:** it has a table, it is hidden, or it has no live column. -/
theorem size_relations :
    (survey s excluded).relations.size = (survey s excluded).tables.size +
      (survey s excluded).hidden.size +
      ((survey s excluded).relations.values.filter fun r =>
        (liveRows s.attributes r.oid).isEmpty).length := by
  have hexposures := Exposure.length_eq_countP (survey s excluded).exposures.values
  have hrelations : (survey s excluded).exposures.values.length =
      (survey s excluded).relations.size := by
    rw [SortedMap.values, List.length_map]
    exact SortedMap.size_map _ _
  have hshown : (survey s excluded).tables.size =
      (survey s excluded).exposures.values.countP fun e => e.columns?.isSome := by
    rw [size_tables, SortedMap.values, List.countP_map]
    exact SortedMap.size_filterMap _ _
  have hhidden : (survey s excluded).hidden.size =
      (survey s excluded).exposures.values.countP fun e => e.hiddenBy?.isSome := by
    rw [SortedMap.values, List.countP_map]
    exact SortedMap.size_filterMap _ _
  have hbare : ((survey s excluded).relations.values.filter fun r =>
      (liveRows s.attributes r.oid).isEmpty).length =
      (survey s excluded).exposures.values.countP fun e => e = .bare := by
    have hvalues : (survey s excluded).exposures.values =
        (survey s excluded).relations.toList.map fun entry =>
          Exposure.ofRows (survey s excluded).types (liveRows s.attributes entry.1) := by
      show (Exposure.ofRelations s.attributes (survey s excluded).relations _).values = _
      rw [SortedMap.values, Exposure.ofRelations, SortedMap.map, List.map_map]
      rfl
    rw [hvalues, List.countP_map, SortedMap.values, List.filter_map, List.length_map,
      ← List.countP_eq_length_filter]
    refine List.countP_congr fun entry hentry => ?_
    have hoid := oid_of_get?_relations (SortedMap.mem_toList_iff.mp hentry)
    simp only [Function.comp_apply, hoid, List.isEmpty_iff, decide_eq_true_eq,
      Exposure.ofRows_eq_bare_iff]
  rw [hshown, hhidden, hbare, ← hexposures, hrelations]

/-! ### Constraints -/

namespace Resolution

variable {columns : Columns} {c : ConstraintRow}

/-- **Only rows that are no keys of exposed relations are passed over.** -/
theorem ofRow_eq_ignored_iff : ofRow columns c = .ignored ↔
    ¬ (columns.contains c.relation = true ∧ c.kind ∈ ['p', 'u', 'f']) := by
  constructor
  · rintro hignored ⟨hexposed, hkind⟩
    simp only [List.mem_cons, List.not_mem_nil, or_false] at hkind
    unfold ofRow at hignored
    rw [if_pos hexposed] at hignored
    rcases hkind with hkind | hkind | hkind
    · rw [if_pos (by simp [hkind]), ofUnique] at hignored
      split at hignored <;> cases hignored
    · rw [if_pos (by simp [hkind]), ofUnique] at hignored
      split at hignored <;> cases hignored
    · rw [if_neg (by simp [hkind]), if_pos (by simp [hkind]), ofForeign] at hignored
      split at hignored
      · split at hignored <;> cases hignored
      · cases hignored
  · intro hnot
    by_contra hne
    refine hnot ⟨?_, kind_mem_of_ne_ignored hne⟩
    by_contra hhidden
    rw [ofRow, if_neg hhidden] at hne
    exact hne rfl

/-- A resolution is a key, a foreign key, dropped or ignored. -/
theorem countP_ne_ignored (l : List Resolution) :
    (l.filterMap unique?).length + (l.filterMap foreign?).length + l.count .dropped =
      l.countP fun r => r ≠ .ignored := by
  rw [List.length_filterMap_eq_countP, List.length_filterMap_eq_countP]
  induction l with
  | nil => rfl
  | cons r l ih =>
    simp only [List.countP_cons, List.count_cons, ← ih]
    cases r <;> simp [unique?, foreign?] <;> omega

end Resolution

/-- **Every constraint of an exposed relation is accounted for:** it is resolved or dropped. -/
theorem Constraints.length_add_dropped (rows : List ConstraintRow) (columns : Columns) :
    (ofRows rows columns).uniqueness.length + (ofRows rows columns).foreignKeys.length +
        (ofRows rows columns).dropped =
      (rows.filter fun c =>
        columns.contains c.relation && ['p', 'u', 'f'].contains c.kind).length := by
  have hcount := Resolution.countP_ne_ignored (rows.map (Resolution.ofRow columns))
  simp only [ofRows, List.length_mergeSort]
  rw [hcount, List.countP_map, ← List.countP_eq_length_filter]
  refine List.countP_congr fun c _ => ?_
  rw [Function.comp_apply, decide_eq_true_eq, ne_eq, Resolution.ofRow_eq_ignored_iff, not_not,
    Bool.and_eq_true, List.contains_iff_mem]

/-! ### Overloads -/

namespace AggregateCatalog

/-- The argument types and names under which overloads are listed. -/
def places (catalog : AggregateCatalog) : List (TypeName × String) :=
  catalog.toList.flatMap fun entry => entry.2.keys.map (entry.1, ·)

theorem length_places (catalog : AggregateCatalog) :
    catalog.places.length = catalog.entryCount := by
  rw [places, entryCount, SortedMap.values, List.length_flatMap, List.length_flatMap, List.map_map]
  congr 1
  refine List.map_congr_left fun entry _ => ?_
  rw [List.length_map, SortedMap.keys, List.length_map]
  rfl

theorem mem_places {catalog : AggregateCatalog} {type : TypeName} {name : String} :
    (type, name) ∈ catalog.places ↔ (catalog.find? type name).isSome = true := by
  rw [places, List.mem_flatMap, find?, Option.isSome_iff_exists]
  simp only [Option.bind_eq_some_iff]
  constructor
  · rintro ⟨⟨type', byName⟩, hentry, hname⟩
    obtain ⟨name', hname', heq⟩ := List.mem_map.mp hname
    obtain ⟨rfl, rfl⟩ := Prod.mk.inj heq
    obtain ⟨o, ho⟩ := SortedMap.contains_iff.mp (SortedMap.mem_keys.mp hname')
    exact ⟨o, byName, SortedMap.mem_toList_iff.mp hentry, ho⟩
  · rintro ⟨o, byName, hbyName, ho⟩
    refine ⟨(type, byName), SortedMap.mem_toList_iff.mpr hbyName, List.mem_map.mpr ⟨name, ?_, rfl⟩⟩
    exact SortedMap.mem_keys.mpr (SortedMap.contains_of_get? ho)

theorem nodup_places (catalog : AggregateCatalog) : catalog.places.Nodup := by
  rw [places, List.nodup_flatMap]
  constructor
  · intro entry _
    exact (SortedMap.nodup_keys entry.2).map fun _ _ h => (Prod.mk.inj h).2
  · refine catalog.sorted.imp fun {e f} hlt => ?_
    rintro ⟨type, name⟩ he hf
    obtain ⟨_, -, he⟩ := List.mem_map.mp he
    obtain ⟨_, -, hf⟩ := List.mem_map.mp hf
    have htypes : e.1 = f.1 := (Prod.mk.inj he).1.trans (Prod.mk.inj hf).1.symm
    exact SortedMap.ne_of_compare_eq_lt hlt htypes

/-- **An overload that is added is listed,** or finds its place taken. -/
theorem entryCount_add (catalog : AggregateCatalog) (o : Overload) :
    (catalog.add o).entryCount =
      catalog.entryCount + if (catalog.find? o.argumentType o.name).isSome then 0 else 1 := by
  have hmem : ∀ place, place ∈ (catalog.add o).places ↔
      place = (o.argumentType, o.name) ∨ place ∈ catalog.places := by
    rintro ⟨type, name⟩
    rw [mem_places, mem_places, find?_add, Prod.mk.injEq]
    by_cases hplace : type = o.argumentType ∧ name = o.name
    · rw [if_pos hplace]
      exact ⟨fun _ => .inl hplace, fun _ => rfl⟩
    · rw [if_neg hplace, or_iff_right hplace]
  rw [← length_places, ← length_places]
  by_cases htaken : (catalog.find? o.argumentType o.name).isSome = true
  · have hperm : (catalog.add o).places.Perm catalog.places := by
      refine (List.perm_ext_iff_of_nodup (nodup_places _) (nodup_places _)).mpr fun place => ?_
      rw [hmem, or_iff_right_of_imp]
      rintro rfl
      exact mem_places.mpr htaken
    rw [if_pos htaken, hperm.length_eq, Nat.add_zero]
  · have hfresh : (o.argumentType, o.name) ∉ catalog.places := fun h => htaken (mem_places.mp h)
    have hperm : (catalog.add o).places.Perm ((o.argumentType, o.name) :: catalog.places) := by
      refine (List.perm_ext_iff_of_nodup (nodup_places _)
        (List.nodup_cons.mpr ⟨hfresh, nodup_places _⟩)).mpr fun place => ?_
      rw [hmem, List.mem_cons]
    rw [if_neg htaken, hperm.length_eq, List.length_cons]

/-- How many overloads find another one listed in their place, when they are added one after
another. -/
def displaced (catalog : AggregateCatalog) : List Overload → Nat
  | [] => 0
  | o :: os =>
    (if (catalog.find? o.argumentType o.name).isSome then 1 else 0) + (catalog.add o).displaced os

/-- **Every overload is accounted for:** it is listed, or it finds another one in its place. -/
theorem entryCount_foldl_add (catalog : AggregateCatalog) (l : List Overload) :
    (l.foldl add catalog).entryCount + catalog.displaced l = catalog.entryCount + l.length := by
  induction l generalizing catalog with
  | nil => rfl
  | cons o l ih =>
    have hrun := ih (catalog.add o)
    rw [entryCount_add] at hrun
    rw [List.foldl_cons, displaced, List.length_cons]
    by_cases htaken : (catalog.find? o.argumentType o.name).isSome = true
    · rw [if_pos htaken] at hrun ⊢
      omega
    · rw [if_neg htaken] at hrun ⊢
      omega

end AggregateCatalog

/-- **The overloads that are not listed are those that find their place taken,** in whatever order
they come. -/
theorem collapsed_eq_displaced {l : List Overload} (hl : l.Perm (survey s excluded).overloads) :
    (survey s excluded).collapsed = AggregateCatalog.displaced ∅ l := by
  have hrun := AggregateCatalog.entryCount_foldl_add ∅ l
  have hsame : l.foldl AggregateCatalog.add ∅ = (survey s excluded).aggregates :=
    AggregateCatalog.ofOverloads_perm hl
  rw [hsame, hl.length_eq] at hrun
  rw [collapsed]
  have hempty : AggregateCatalog.entryCount ∅ = 0 := rfl
  omega

/-- The overloads that the document lists. -/
theorem length_listed :
    ((survey s excluded).document.aggregates.values.flatMap SortedMap.toList).length =
      (survey s excluded).aggregates.entryCount := by
  rw [document, SortedMap.values_map, List.flatMap_map, AggregateCatalog.entryCount,
    List.length_flatMap, List.length_flatMap]
  congr 1
  exact List.map_congr_left fun byName _ => SortedMap.size_map byName _

/-- The events, with the hidden relations that the first lines are about. -/
theorem events_eq (v : Survey) :
    v.events = v.hiddenRelations.map (fun h => .relationHidden h.1.name h.2) ++
      [ .constraintsResolved v.constraints.uniqueness.length v.constraints.foreignKeys.length
          v.constraints.dropped,
        .aggregatesResolved v.document.aggregates.size v.collapsed,
        .schemaResolved v.schemas.size v.relations.size v.document.tables.size
          v.document.aggregates.size ] := by
  have hlines : v.hidden.toList.filterMap (fun entry =>
      (v.relations.get? entry.1).map fun r => Event.relationHidden r.name entry.2) =
      v.hiddenRelations.map fun h => .relationHidden h.1.name h.2 := by
    rw [hiddenRelations, List.map_filterMap]
    simp only [Option.map_map]
    rfl
  have htypes : v.aggregates.size = v.document.aggregates.size := (SortedMap.size_map _ _).symm
  rw [events, hlines, htypes]

end Survey

/-- **What a survey reports adds up.** There is a line for each relation with a live column of a
type that is not usable, by ascending oid, which names the type of the first such row. Besides those
the relations are the ones that have tables and the ones without live columns. The constraints
reported are the keys and foreign keys of exposed relations. The overloads listed and those that
were collapsed, because they found another one in their place, are the aggregates that qualify. -/
theorem events_balance (s : Snapshot) (excluded : List String) :
    ∃ (hidden : List (Survey.Relation × Oid)) (unique foreign dropped collapsed : Nat),
      (survey s excluded).events =
        hidden.map (fun h => .relationHidden h.1.name h.2) ++
          [ .constraintsResolved unique foreign dropped,
            .aggregatesResolved (s.resolve excluded).aggregates.size collapsed,
            .schemaResolved (survey s excluded).schemas.size (survey s excluded).relations.size
              (s.resolve excluded).tables.size (s.resolve excluded).aggregates.size ] ∧
      (hidden.Pairwise fun h k => h.1.oid < k.1.oid) ∧
      (∀ r type, (r, type) ∈ hidden ↔
        (survey s excluded).relations.get? r.oid = some r ∧ s.HiddenBy r.oid type) ∧
      (survey s excluded).relations.size = (s.resolve excluded).tables.size + hidden.length +
        ((survey s excluded).relations.values.filter fun r =>
          (Survey.liveRows s.attributes r.oid).isEmpty).length ∧
      unique + foreign + dropped = (s.constraints.filter fun c =>
        (survey s excluded).columns.contains c.relation && ['p', 'u', 'f'].contains c.kind).length ∧
      ((s.resolve excluded).aggregates.values.flatMap SortedMap.toList).length + collapsed =
        (Survey.Overload.qualifying s.procedures s.aggregates
          (Survey.ScalarType.ofRows s.types)).length ∧
      ∀ l, l.Perm (Survey.Overload.qualifying s.procedures s.aggregates
          (Survey.ScalarType.ofRows s.types)) →
        collapsed = Survey.AggregateCatalog.displaced ∅ l := by
  have hcollapsed : ∀ l, l.Perm (survey s excluded).overloads →
      (survey s excluded).collapsed = Survey.AggregateCatalog.displaced ∅ l :=
    fun l hl => Survey.collapsed_eq_displaced hl
  refine ⟨(survey s excluded).hiddenRelations, _, _, _, _, Survey.events_eq _,
    Survey.pairwise_hiddenRelations, fun r type => Survey.mem_hiddenRelations, ?_,
    Survey.Constraints.length_add_dropped _ _, ?_, hcollapsed⟩
  · rw [Survey.length_hiddenRelations]
    exact Survey.size_relations
  · have hrun := Survey.AggregateCatalog.entryCount_foldl_add ∅ (survey s excluded).overloads
    have hempty : Survey.AggregateCatalog.entryCount ∅ = 0 := rfl
    rw [hempty, Nat.zero_add, ← hcollapsed _ (List.Perm.refl _)] at hrun
    show ((survey s excluded).document.aggregates.values.flatMap SortedMap.toList).length + _ = _
    rw [Survey.length_listed]
    exact hrun

end SchemaSurvey
