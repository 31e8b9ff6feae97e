/-
  `Exclusion` — what it takes to exclude more schemas.

  Excluding more schemas leaves fewer rows to compete for a name. That does not leave fewer tables:
  when the row that wins a name is excluded, another one wins, and a name whose winner could not be
  shown may come to have a table. But a winner that is not excluded itself goes on winning
  (`Survey.wins_of_listed`), and what is shown of it depends on its own rows. So names change hands
  only where the old winner is in a schema newly excluded (`resolve_excludingMore`).

  Aggregates are not affected at all.
-/
import SchemaSurvey.Catalog.Sample
import SchemaSurvey.Proofs.Survey.ExposureRule
import SchemaSurvey.Proofs.Survey.Record

namespace SchemaSurvey

open Catalog

namespace Survey

variable {s : Snapshot} {excluded excluded' : List String} {name : String} {c c' : ClassRow}

/-! ### Who wins when more is excluded -/

theorem competes_of_subset (hsub : excluded ⊆ excluded') (h : s.Competes excluded' name c) :
    s.Competes excluded name c := by
  obtain ⟨n, hn, hoid, hlisted⟩ := h.listed
  exact ⟨h.mem, h.name_eq, h.kind_mem, n, hn, hoid, fun hname => hlisted (hsub hname)⟩

/-- **A winner that is not excluded goes on winning.** It has fewer rivals than before. -/
theorem wins_of_listed (hsub : excluded ⊆ excluded') (h : s.Wins excluded name c)
    (hlisted : ∃ n ∈ s.namespaces, n.oid = c.schema ∧ n.name ∉ excluded') :
    s.Wins excluded' name c :=
  ⟨⟨h.mem, h.name_eq, h.kind_mem, hlisted⟩, fun d hd => h.least d (competes_of_subset hsub hd)⟩

/-- **Where the winner changes, the old one is in a schema newly excluded.** -/
theorem newly_excluded_of_ne (hsub : excluded ⊆ excluded') (h : s.Wins excluded name c)
    (h' : s.Wins excluded' name c') (hne : c ≠ c') :
    ∃ n ∈ s.namespaces, n.oid = c.schema ∧ n.name ∈ excluded' ∧ n.name ∉ excluded := by
  obtain ⟨n, hn, hoid, hlisted⟩ := h.listed
  refine ⟨n, hn, hoid, ?_, hlisted⟩
  by_contra hstill
  exact hne (wins_unique (wins_of_listed hsub h ⟨n, hn, hoid, hstill⟩) h')

/-! ### What is shown of a winner -/

/-- The relation that a table shows is the one that the winner of its name describes. -/
theorem ofRow?_of_shows {t : Document.Table} {r : Relation} {schema : Schema}
    {cs : List Survey.Column} (hshows : (survey s excluded).Shows t r schema cs)
    (hwins : s.Wins excluded t.name c) :
    Relation.ofRow? (survey s excluded).schemas c = some r := by
  have hname : t.name = r.name := by rw [hshows.table_eq, tableOf]
  obtain ⟨-, q, hq, hleast⟩ := wins_iff.mp hwins
  have hleast_r := (Relation.least_of_get?_ofRows hshows.relation_eq).2
  rw [hname] at hleast
  rw [hq, hleast.unique hleast_r]

/-- **A winner has the same record whatever else is excluded.** -/
theorem sameButForeignKeys_of_wins (hnamespaces : (s.namespaces.map NamespaceRow.oid).Nodup)
    {t t' : Document.Table} (hwins : s.Wins excluded name c) (hwins' : s.Wins excluded' name c)
    (ht : (s.resolve excluded).tables.get? name = some t)
    (ht' : (s.resolve excluded').tables.get? name = some t') : t.SameButForeignKeys t' := by
  obtain ⟨rfl, r, schema, cs, hshows⟩ := get?_tables.mp ht
  obtain ⟨hname', r', schema', cs', hshows'⟩ := get?_tables.mp ht'
  rw [← hname'] at hwins'
  have hrow := Relation.ofRow?_eq_some_iff.mp (ofRow?_of_shows hshows hwins)
  have hrow' := Relation.ofRow?_eq_some_iff.mp (ofRow?_of_shows hshows' hwins')
  obtain ⟨-, hoid, hschema, hname, -⟩ := hrow
  obtain ⟨-, hoid', hschema', hname', -⟩ := hrow'
  -- Both schemas come from the namespace row of the winner's schema.
  obtain ⟨n, hn, hn_oid, -, rfl⟩ := Schema.row_of_get? hshows.schema_eq
  obtain ⟨m, hm, hm_oid, -, rfl⟩ := Schema.row_of_get? hshows'.schema_eq
  have hnm : n = m := by
    refine List.inj_on_of_nodup_map hnamespaces hn hm ?_
    rw [hn_oid, hm_oid, hschema, hschema']
  exact hshows.sameButForeignKeys rfl hshows' (hoid.trans hoid'.symm) (hname.trans hname'.symm)
    (congrArg NamespaceRow.name hnm) (Snapshot.SameRows.refl s r.oid)

/-- The winner of a table's name, and the schema that the table is in. -/
theorem exists_wins_of_table {t : Document.Table}
    (ht : (s.resolve excluded).tables.get? name = some t) :
    ∃ c, s.Wins excluded name c ∧ s.Showable c ∧
      ∃ n ∈ s.namespaces, n.oid = c.schema ∧ n.name = t.schema := by
  obtain ⟨rfl, r, schema, cs, hshows⟩ := get?_tables.mp ht
  obtain ⟨c, hwins, hshowable, hschema⟩ := winner_of_shows hshows
  obtain ⟨n, hn, hn_oid, -, rfl⟩ := Schema.row_of_get? hshows.schema_eq
  refine ⟨c, hwins, hshowable, n, hn, hn_oid.trans hschema.symm, ?_⟩
  rw [hshows.table_eq, tableOf]

end Survey

/-- **Excluding more schemas only affects what they held.** A table that is not in an excluded
schema stays as it was, foreign keys apart. A table that is new, or that has another record, is
under a name whose winner is in a schema newly excluded. Aggregates stay as they were. -/
theorem resolve_excludingMore (s : Snapshot) (excluded excluded' : List String)
    (hclasses : (s.classes.map ClassRow.oid).Nodup)
    (hnamespaces : (s.namespaces.map NamespaceRow.oid).Nodup) (hsub : excluded ⊆ excluded') :
    (∀ name t, (s.resolve excluded).tables.get? name = some t → t.schema ∉ excluded' →
      ∃ t', (s.resolve excluded').tables.get? name = some t' ∧ t.SameButForeignKeys t') ∧
    (∀ name t', (s.resolve excluded').tables.get? name = some t' →
      (∀ t, (s.resolve excluded).tables.get? name = some t → ¬ t.SameButForeignKeys t') →
      ∃ c, s.Wins excluded name c ∧ ∃ n ∈ s.namespaces, n.oid = c.schema ∧
        n.name ∈ excluded' ∧ n.name ∉ excluded) ∧
    (s.resolve excluded').aggregates = (s.resolve excluded).aggregates := by
  refine ⟨fun name t ht hlisted => ?_, fun name t' ht' hdiffers => ?_, rfl⟩
  · obtain ⟨c, hwins, hshowable, n, hn, hoid, hname⟩ := Survey.exists_wins_of_table ht
    have hwins' : s.Wins excluded' name c :=
      Survey.wins_of_listed hsub hwins ⟨n, hn, hoid, hname ▸ hlisted⟩
    obtain ⟨t', ht'⟩ := Survey.exists_table hclasses hwins' hshowable
    exact ⟨t', ht', Survey.sameButForeignKeys_of_wins hnamespaces hwins hwins' ht ht'⟩
  · obtain ⟨c', hwins', hshowable, -⟩ := Survey.exists_wins_of_table ht'
    obtain ⟨c, hwins⟩ :=
      Survey.exists_wins (Survey.competes_of_subset hsub hwins'.toCompetes)
    refine ⟨c, hwins, Survey.newly_excluded_of_ne hsub hwins hwins' fun heq => ?_⟩
    -- Were it still the same winner, its table would have been there before, with this record.
    subst heq
    obtain ⟨t, ht⟩ := Survey.exists_table hclasses hwins hshowable
    exact hdiffers t ht (Survey.sameButForeignKeys_of_wins hnamespaces hwins hwins' ht ht')

open Catalog.Sample.Oids in
/-- Orders in `public` that cannot be shown, other orders in `archive`, and items in `sales`. -/
def archived : Snapshot :=
  let b : Sample := {}
  let b := b.table publicSchema "orders" [⟨"id", int4, true⟩, ⟨"tags", textArray, false⟩]
  let b := b.table archive "orders" [⟨"id", int4, true⟩]
  (b.table sales "items" [⟨"id", int4, true⟩]).snapshot

/-- Without `public` the orders of the archive are shown, and the items are what they were. -/
theorem resolve_archived :
    (archived.classes.map ClassRow.oid).Nodup ∧ (archived.namespaces.map NamespaceRow.oid).Nodup ∧
      Sample.excluded ⊆ "public" :: Sample.excluded ∧
      (∃ t t', (archived.resolve Sample.excluded).tables.get? "items" = some t ∧
        (archived.resolve ("public" :: Sample.excluded)).tables.get? "items" = some t' ∧
          t.SameButForeignKeys t') ∧
      (archived.resolve Sample.excluded).tables.get? "orders" = none ∧
      (∃ t', (archived.resolve ("public" :: Sample.excluded)).tables.get? "orders" = some t' ∧
        t'.schema = "archive") ∧
      ∃ c, archived.Wins Sample.excluded "orders" c ∧ ∃ n ∈ archived.namespaces,
        n.oid = c.schema ∧ n.name ∈ "public" :: Sample.excluded ∧ n.name ∉ Sample.excluded := by
  have hclasses : (archived.classes.map ClassRow.oid).Nodup := by decide
  have hnamespaces : (archived.namespaces.map NamespaceRow.oid).Nodup := by decide
  have hsub : Sample.excluded ⊆ "public" :: Sample.excluded := List.subset_cons_self _ _
  obtain ⟨hstays, hnew, -⟩ := resolve_excludingMore archived Sample.excluded
    ("public" :: Sample.excluded) hclasses hnamespaces hsub
  obtain ⟨t, ht, ht_schema⟩ :
      ∃ t, (archived.resolve Sample.excluded).tables.get? "items" = some t ∧ t.schema = "sales" :=
    ⟨_, by rfl, by rfl⟩
  obtain ⟨t', ht', hsame⟩ := hstays "items" t ht (by rw [ht_schema]; decide)
  have hhidden : (archived.resolve Sample.excluded).tables.get? "orders" = none := by rfl
  obtain ⟨u, hu, hu_schema⟩ :
      ∃ u, (archived.resolve ("public" :: Sample.excluded)).tables.get? "orders" = some u ∧
        u.schema = "archive" :=
    ⟨_, by rfl, by rfl⟩
  have hwinner := hnew "orders" u hu fun t ht => by
    rw [hhidden] at ht
    cases ht
  exact ⟨hclasses, hnamespaces, hsub, ⟨t, t', ht, ht', hsame⟩, hhidden, ⟨u, hu, hu_schema⟩, hwinner⟩

end SchemaSurvey
