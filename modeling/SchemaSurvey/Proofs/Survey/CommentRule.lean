/-
  `CommentRule` — which texts a table and its columns are described by.

  The rule is stated on the rows alone. A row is about one part of a relation
  (`DescriptionRow.IsAbout`): part 0 is the relation itself, any other part a column number. Of the
  rows about one part the last gives the text (`DescriptionRow.IsLastText`), and where there is none
  the description is left out of the JSON as well. A row about anything else is passed over
  (`Snapshot.PassesOver`), and a table is the same table without it (`resolve_descriptions`).

  Comments are kept by column number and shown by name. A number that is no column number comes to
  nothing, also if it would name a column were it cut to 16 bits: numbers of columns are compared as
  32-bit numbers, and `Int16.toInt32` keeps them apart.
-/
import SchemaSurvey.Document.Format
import SchemaSurvey.Proofs.Survey.ColumnRule

namespace SchemaSurvey

open Catalog

/-! ### The rule -/

namespace Catalog

/-- The row is about one part of a relation. -/
structure DescriptionRow.IsAbout (relation : Oid) (part : Int32) (d : DescriptionRow) : Prop where
  holder_eq : d.holder = Survey.relationHolder
  object_eq : d.object = relation
  part_eq : d.part = part

instance (relation : Oid) (part : Int32) (d : DescriptionRow) :
    Decidable (d.IsAbout relation part) :=
  decidable_of_iff (d.holder = Survey.relationHolder ∧ d.object = relation ∧ d.part = part)
    ⟨fun ⟨hholder, hobject, hpart⟩ => ⟨hholder, hobject, hpart⟩,
      fun ⟨hholder, hobject, hpart⟩ => ⟨hholder, hobject, hpart⟩⟩

/-- The last row about this part of a relation has this text. -/
def DescriptionRow.IsLastText (rows : List DescriptionRow) (relation : Oid) (part : Int32)
    (text : String) : Prop :=
  ∃ before d after, rows = before ++ d :: after ∧ d.IsAbout relation part ∧ d.text = text ∧
    ∀ e ∈ after, ¬ e.IsAbout relation part

/-- Why a row says nothing about a relation. -/
inductive Snapshot.PassesOver (s : Snapshot) (relation : Oid) (d : DescriptionRow) : Prop where
  | otherHolder (hholder : d.holder ≠ Survey.relationHolder)
  | otherObject (hobject : d.object ≠ relation)
  /-- The row is about a column that has been dropped. -/
  | dropped (a : AttributeRow) (ha : a ∈ s.attributes) (hrelation : a.relation = relation)
    (hdropped : a.dropped = true) (hnumber : 0 < a.number) (hpart : d.part = a.number.toInt32)
  /-- The row is not about the relation itself, and no live column has its number. -/
  | unknown (hcolumn : d.part ≠ 0) (hpart : ∀ number, s.IsLive relation number →
    d.part ≠ number.toInt32)
  /-- No column can have the number. -/
  | outOfRange (hpart : d.part.toInt < -32768 ∨ 32767 < d.part.toInt)

end Catalog

/-- The object has a member of this name. -/
def Json.HasMember (name : String) (v : Json) : Prop :=
  ∃ members, v = .object members ∧ ∃ w, (name, w) ∈ members

/-- A description is written if there is one. -/
theorem Document.Table.hasMember_description {t : Document.Table} :
    (Document.Table.codec.write t).HasMember "description" ↔ t.description.isSome = true := by
  cases h : t.description <;>
    simp [Json.HasMember, Document.Table.codec, Json.Codec.record, Json.Fields.write, h,
      Json.RecordField.required, Json.RecordField.optional, Json.RecordField.defaulted]

theorem Document.Column.hasMember_description {c : Document.Column} :
    (Document.Column.codec.write c).HasMember "description" ↔ c.description.isSome = true := by
  cases h : c.description <;>
    simp [Json.HasMember, Document.Column.codec, Json.Codec.record, Json.Fields.write, h,
      Json.RecordField.required, Json.RecordField.optional, Json.RecordField.defaulted]

namespace Survey

variable {rows : List DescriptionRow} {relation : Oid} {part : Int32}

/-! ### The last row -/

theorem lastComment?_eq_getLast? :
    lastComment? rows relation part =
      ((rows.filter fun d => d.IsAbout relation part).getLast?).map DescriptionRow.text := by
  unfold lastComment?
  have hsame : ∀ d : DescriptionRow,
      (d.holder == relationHolder && d.object == relation && d.part == part) =
        decide (d.IsAbout relation part) := fun d => by
    rw [Bool.eq_iff_iff, decide_eq_true_eq, Bool.and_eq_true, Bool.and_eq_true, beq_iff_eq,
      beq_iff_eq, beq_iff_eq, and_assoc]
    exact ⟨fun ⟨hholder, hobject, hpart⟩ => ⟨hholder, hobject, hpart⟩,
      fun ⟨hholder, hobject, hpart⟩ => ⟨hholder, hobject, hpart⟩⟩
  simp only [hsame]

/-- **The last row counts.** -/
theorem lastComment?_eq_some_iff {text : String} :
    lastComment? rows relation part = some text ↔
      DescriptionRow.IsLastText rows relation part text := by
  rw [lastComment?_eq_getLast?, List.getLast?_filter, Option.map_eq_some_iff]
  simp only [List.find?_eq_some_iff_append, decide_eq_true_eq, Bool.not_eq_true',
    decide_eq_false_iff_not]
  constructor
  · rintro ⟨d, ⟨hd, later, earlier, hrows, hlater⟩, htext⟩
    have hsplit : rows = earlier.reverse ++ d :: later.reverse := by
      rw [← List.reverse_reverse rows, hrows]
      simp
    exact ⟨_, d, _, hsplit, hd, htext, fun e he => hlater e (List.mem_reverse.mp he)⟩
  · rintro ⟨before, d, after, rfl, hd, htext, hafter⟩
    refine ⟨d, ⟨hd, after.reverse, before.reverse, by simp, fun e he => ?_⟩, htext⟩
    exact hafter e (List.mem_reverse.mp he)

theorem isSome_lastComment? :
    (lastComment? rows relation part).isSome = true ↔ ∃ d ∈ rows, d.IsAbout relation part := by
  rw [lastComment?_eq_getLast?, Option.isSome_map, List.getLast?_isSome, ne_eq,
    List.filter_eq_nil_iff]
  simp

/-- A row about something else may be taken away. -/
theorem lastComment?_append_cons {before after : List DescriptionRow} {d : DescriptionRow}
    (hd : ¬ d.IsAbout relation part) :
    lastComment? (before ++ d :: after) relation part =
      lastComment? (before ++ after) relation part := by
  rw [lastComment?_eq_getLast?, lastComment?_eq_getLast?, List.filter_append, List.filter_append,
    List.filter_cons_of_neg (by simpa using hd)]

/-! ### Comments that are kept -/

variable {s : Snapshot} {excluded : List String} {oid : Oid} {cs : List Survey.Column}

theorem get?_comments (h : (survey s excluded).columns.get? oid = some cs) :
    (survey s excluded).comments.get? oid = some (.ofRows s.descriptions oid cs) := by
  show (Comments.ofColumns s.descriptions (survey s excluded).columns).get? oid = _
  rw [Comments.ofColumns, SortedMap.get?_map, h]
  rfl

theorem relation?_comments (h : (survey s excluded).columns.get? oid = some cs) :
    Comments.relation? (survey s excluded).comments oid = lastComment? s.descriptions oid 0 := by
  rw [Comments.relation?, get?_comments h]
  rfl

/-- The text of a number is the same for all columns of the number. -/
theorem column?_comments (h : (survey s excluded).columns.get? oid = some cs) {c : Survey.Column}
    (hc : c ∈ cs) :
    Comments.column? (survey s excluded).comments oid c.number =
      lastComment? s.descriptions oid c.number.toInt32 := by
  have hentry : ∀ e, e ∈ cs.filterMap (fun c =>
        (lastComment? s.descriptions oid c.number.toInt32).map (c.number, ·)) ↔
      (∃ d ∈ cs, d.number = e.1) ∧ lastComment? s.descriptions oid e.1.toInt32 = some e.2 := by
    intro ⟨number, text⟩
    simp only [List.mem_filterMap, Option.map_eq_some_iff, Prod.mk.injEq]
    constructor
    · rintro ⟨d, hd, _, htext, rfl, rfl⟩
      exact ⟨⟨d, hd, rfl⟩, htext⟩
    · rintro ⟨⟨d, hd, rfl⟩, htext⟩
      exact ⟨d, hd, text, htext, rfl, rfl⟩
  rw [Comments.column?, get?_comments h, Option.bind_some]
  apply Option.ext
  intro text
  rw [Comments.ofRows, SortedMap.get?_ofList, hentry]
  · exact ⟨fun h => h.2, fun h => ⟨⟨c, hc, rfl⟩, h⟩⟩
  · intro e he f hf hkey
    have he_text := ((hentry e).mp he).2
    rw [hkey, ((hentry f).mp hf).2] at he_text
    exact (Option.some.inj he_text).symm

/-- A table is described by the last row about its relation as a whole. -/
theorem Shows.description_eq {t : Document.Table} {r : Relation} {schema : Schema}
    (h : (survey s excluded).Shows t r schema cs) :
    t.description = lastComment? s.descriptions r.oid 0 := by
  rw [h.table_eq]
  exact relation?_comments h.columns_eq

/-- A column is described by the last row about its number. -/
theorem description_columnEntry (h : (survey s excluded).columns.get? oid = some cs)
    {c : Survey.Column} (hc : c ∈ cs) :
    ((survey s excluded).columnEntry c).description =
      lastComment? s.descriptions oid c.number.toInt32 := by
  obtain ⟨a, ha, hac⟩ := row_of_mem_columns h hc
  have hrelation : c.relation = oid :=
    (Column.fields_of_ofRow? hac).1.trans (mem_liveRows.mp ha).2.1
  show Comments.column? (survey s excluded).comments c.relation c.number = _
  rw [hrelation, column?_comments h hc]

/-! ### Rows that are passed over -/

theorem toInt32_inj {m n : Int16} (h : m.toInt32 = n.toInt32) : m = n := by
  rw [← Int16.toInt_inj, ← Int16.toInt_toInt32, h, Int16.toInt_toInt32]

/-- **A row that is passed over is not about the relation,** nor about a live column of it. -/
theorem not_isAbout_of_passesOver
    (hnumbers : (s.attributes.map fun a => (a.relation, a.number)).Nodup) {d : DescriptionRow}
    (h : s.PassesOver relation d) :
    ¬ d.IsAbout relation 0 ∧
      ∀ number, s.IsLive relation number → ¬ d.IsAbout relation number.toInt32 := by
  cases h with
  | otherHolder hholder =>
    exact ⟨fun hd => hholder hd.holder_eq, fun _ _ hd => hholder hd.holder_eq⟩
  | otherObject hobject =>
    exact ⟨fun hd => hobject hd.object_eq, fun _ _ hd => hobject hd.object_eq⟩
  | dropped a ha hrelation hdropped hnumber hpart =>
    refine ⟨fun hd => ?_, fun number hlive hd => ?_⟩
    · have hzero : a.number = 0 := toInt32_inj (hpart.symm.trans hd.part_eq)
      rw [hzero] at hnumber
      exact absurd hnumber (by decide)
    · -- A live column of this number would be the column that has been dropped.
      obtain ⟨b, hb, hb_relation, hb_live, hb_number⟩ := hlive
      have hsame_number : a.number = b.number := by
        rw [hb_number]
        exact toInt32_inj (hpart.symm.trans hd.part_eq)
      have hab : a = b := List.inj_on_of_nodup_map hnumbers ha hb
        (by rw [hrelation, hb_relation, hsame_number])
      rw [← hab, AttributeRow.isLive, hdropped] at hb_live
      cases hb_live
  | unknown hcolumn hpart =>
    exact ⟨fun hd => hcolumn hd.part_eq, fun number hlive hd => hpart number hlive hd.part_eq⟩
  | outOfRange hpart =>
    have hnarrow : ∀ number : Int16, ¬ d.IsAbout relation number.toInt32 := fun number hd => by
      rw [hd.part_eq, Int16.toInt_toInt32] at hpart
      have hlower := number.le_toInt
      have hupper := number.toInt_lt
      omega
    exact ⟨hnarrow 0, fun number _ => hnarrow number⟩

/-- **A table is the same table without a row that is passed over.** -/
theorem tableOf_append_cons
    (hnumbers : (s.attributes.map fun a => (a.relation, a.number)).Nodup)
    {before after : List DescriptionRow} {d : DescriptionRow}
    (hrows : s.descriptions = before ++ d :: after) {r : Relation} (schema : Schema)
    (hcolumns : (survey s excluded).columns.get? r.oid = some cs) (hd : s.PassesOver r.oid d) :
    (survey { s with descriptions := before ++ after } excluded).tableOf r schema cs =
      (survey s excluded).tableOf r schema cs := by
  let s' : Snapshot := { s with descriptions := before ++ after }
  have hcolumns' : (survey s' excluded).columns.get? r.oid = some cs := hcolumns
  obtain ⟨hwhole, hpart⟩ := not_isAbout_of_passesOver hnumbers hd
  have hdescription : Comments.relation? (survey s' excluded).comments r.oid =
      Comments.relation? (survey s excluded).comments r.oid := by
    rw [relation?_comments hcolumns', relation?_comments hcolumns, hrows,
      lastComment?_append_cons hwhole]
  have hentry : ∀ c ∈ cs,
      (survey s' excluded).columnEntry c = (survey s excluded).columnEntry c := by
    intro c hc
    obtain ⟨a, ha, hac⟩ := row_of_mem_columns hcolumns hc
    obtain ⟨ha, hrelation, hlive⟩ := mem_liveRows.mp ha
    have hnumber : a.number = c.number := (Column.fields_of_ofRow? hac).2.2.symm
    have htext : ((survey s' excluded).columnEntry c).description =
        ((survey s excluded).columnEntry c).description := by
      rw [description_columnEntry hcolumns' hc, description_columnEntry hcolumns hc, hrows,
        lastComment?_append_cons (hpart c.number ⟨a, ha, hrelation, hlive, hnumber⟩)]
    exact congrArg (Document.Column.mk c.name c.type c.nullability) htext
  have hcolumnEntries : cs.map (fun c => (c.name, (survey s' excluded).columnEntry c)) =
      cs.map fun c => (c.name, (survey s excluded).columnEntry c) :=
    List.map_congr_left fun c hc => by rw [hentry c hc]
  rw [tableOf, tableOf, hdescription, hcolumnEntries]
  rfl

/-- Without a row that is passed over the same relations have the same tables. -/
theorem get?_tables_append_cons
    (hnumbers : (s.attributes.map fun a => (a.relation, a.number)).Nodup)
    {before after : List DescriptionRow} {d : DescriptionRow}
    (hrows : s.descriptions = before ++ d :: after) {name : String}
    (hd : ∀ c, s.Exposes excluded c → c.name = name → s.PassesOver c.oid d) :
    (survey { s with descriptions := before ++ after } excluded).tables.get? name =
      (survey s excluded).tables.get? name := by
  -- Both snapshots expose the same relations, since that is not a matter of comments.
  have hpassed : ∀ r schema cs, (survey s excluded).Shows ((survey s excluded).tableOf r schema cs)
      r schema cs → r.name = name → s.PassesOver r.oid d := fun r schema cs hshows hname => by
    obtain ⟨c, hc, hc_name, hc_oid⟩ := exists_exposes_of_shows hshows
    exact hc_oid ▸ hd c hc (hc_name.trans hname)
  apply Option.ext
  intro t
  rw [get?_tables, get?_tables]
  refine and_congr_right fun hname => exists_congr fun r => exists_congr fun schema =>
    exists_congr fun cs => ?_
  constructor
  · rintro ⟨hrelation, hschema, hcolumns, htable⟩
    have hr_name : r.name = name := by rw [← hname, htable, tableOf]
    have hsame := tableOf_append_cons hnumbers hrows schema hcolumns
      (hpassed r schema cs ⟨hrelation, hschema, hcolumns, rfl⟩ hr_name)
    exact ⟨hrelation, hschema, hcolumns, htable.trans hsame⟩
  · rintro ⟨hrelation, hschema, hcolumns, htable⟩
    have hr_name : r.name = name := by rw [← hname, htable, tableOf]
    have hsame := tableOf_append_cons hnumbers hrows schema hcolumns
      (hpassed r schema cs ⟨hrelation, hschema, hcolumns, rfl⟩ hr_name)
    exact ⟨hrelation, hschema, hcolumns, htable.trans hsame.symm⟩

end Survey

/-- **Descriptions are the texts of the last rows.** A table is described by the last row about its
relation, a column by the last row about its number, and a description is left out of the JSON
exactly where there is no such row. A row about another thing changes nothing. -/
theorem resolve_descriptions (s : Snapshot) (excluded : List String)
    (hnumbers : (s.attributes.map fun a => (a.relation, a.number)).Nodup)
    (hnames : (s.attributes.map fun a => (a.relation, a.name)).Nodup) (name : String) :
    (∀ t, (s.resolve excluded).tables.get? name = some t →
      (∃ c, s.Exposes excluded c ∧ c.name = name) ∧
      ∀ c, s.Exposes excluded c → c.name = name →
        (∀ text, t.description = some text ↔
          DescriptionRow.IsLastText s.descriptions c.oid 0 text) ∧
        ((Document.Table.codec.write t).HasMember "description" ↔
          ∃ d ∈ s.descriptions, d.IsAbout c.oid 0) ∧
        ∀ a ∈ Survey.liveRows s.attributes c.oid,
          ∃ entry, t.columns.get? a.name = some entry ∧
            (∀ text, entry.description = some text ↔
              DescriptionRow.IsLastText s.descriptions c.oid a.number.toInt32 text) ∧
            ((Document.Column.codec.write entry).HasMember "description" ↔
              ∃ d ∈ s.descriptions, d.IsAbout c.oid a.number.toInt32)) ∧
    ∀ before d after, s.descriptions = before ++ d :: after →
      (∀ c, s.Exposes excluded c → c.name = name → s.PassesOver c.oid d) →
        (({ s with descriptions := before ++ after } : Snapshot).resolve excluded).tables.get?
          name = (s.resolve excluded).tables.get? name := by
  refine ⟨fun t ht => ?_, fun before d after hrows hd =>
    Survey.get?_tables_append_cons hnumbers hrows hd⟩
  obtain ⟨d, r, schema, cs, hd, hd_name, hshows, hoid, hunique⟩ := Survey.exists_exposed ht
  refine ⟨⟨d, hd, hd_name⟩, fun c hc hc_name => ?_⟩
  obtain rfl : c = d := hunique c hc hc_name
  have hdescription := hshows.description_eq
  rw [← hoid]
  refine ⟨fun text => ?_, ?_, fun a ha => ?_⟩
  · rw [hdescription, Survey.lastComment?_eq_some_iff]
  · rw [Document.Table.hasMember_description, hdescription, Survey.isSome_lastComment?]
  · obtain ⟨column, hmem, hcolumn, hentry⟩ := hshows.exists_columnEntry hnames ha
    have hentry_description : ((survey s excluded).columnEntry column).description =
        Survey.lastComment? s.descriptions r.oid a.number.toInt32 := by
      rw [← hcolumn.number_eq]
      exact Survey.description_columnEntry hshows.columns_eq hmem
    refine ⟨_, hentry, fun text => ?_, ?_⟩
    · rw [hentry_description, Survey.lastComment?_eq_some_iff]
    · rw [Document.Column.hasMember_description, hentry_description, Survey.isSome_lastComment?]

open Catalog.Sample.Oids in
/-- Items with two comments on the table, of which the later counts, one on the first column, one on
a number that would be the first column's if it were cut to 16 bits, and one on another kind of
object. -/
def annotatedItems : Snapshot :=
  let b := ({} : Sample).table publicSchema "items" [⟨"id", int4, true⟩, ⟨"label", text, false⟩]
  let descriptions : List DescriptionRow :=
    [⟨60001, 1259, 0, "Things"⟩, ⟨60001, 1259, 1, "Key"⟩, ⟨60001, 1259, 0, "Things for sale"⟩,
      ⟨60001, 2600, 0, "Not a table"⟩, ⟨60001, 1259, 65537, "Not a column"⟩]
  { b.snapshot with descriptions }

/-- The items and their first column are described, and the label is not. -/
theorem resolve_annotatedItems :
    (annotatedItems.attributes.map fun a => (a.relation, a.number)).Nodup ∧
      (annotatedItems.attributes.map fun a => (a.relation, a.name)).Nodup ∧
      ∃ t, (annotatedItems.resolve Sample.excluded).tables.get? "items" = some t ∧
        t.description = some "Things for sale" ∧
        (∃ id, t.columns.get? "id" = some id ∧ id.description = some "Key") ∧
        (∃ label, t.columns.get? "label" = some label ∧
          ¬ (Document.Column.codec.write label).HasMember "description") ∧
        (({ annotatedItems with descriptions := annotatedItems.descriptions.dropLast } :
          Snapshot).resolve Sample.excluded).tables.get? "items" = some t := by
  have hnumbers : (annotatedItems.attributes.map fun a => (a.relation, a.number)).Nodup := by decide
  have hnames : (annotatedItems.attributes.map fun a => (a.relation, a.name)).Nodup := by decide
  have hclasses : (annotatedItems.classes.map ClassRow.oid).Nodup := by decide
  let items : ClassRow := ⟨60001, Sample.Oids.publicSchema, "items", 'r'⟩
  let id : AttributeRow := ⟨60001, "id", 1, Sample.Oids.int4, true, false⟩
  let label : AttributeRow := ⟨60001, "label", 2, Sample.Oids.text, false, false⟩
  have hitems : annotatedItems.Exposes Sample.excluded items := by decide
  obtain ⟨t, ht⟩ := Survey.exists_table hclasses hitems.wins hitems.showable
  obtain ⟨hdescribed, hpassed⟩ :=
    resolve_descriptions annotatedItems Sample.excluded hnumbers hnames "items"
  obtain ⟨-, hrule⟩ := hdescribed t ht
  obtain ⟨htable, -, hcolumns⟩ := hrule items hitems rfl
  obtain ⟨idEntry, hid, hid_text, -⟩ := hcolumns id (by decide)
  obtain ⟨labelEntry, hlabel, -, hlabel_member⟩ := hcolumns label (by decide)
  refine ⟨hnumbers, hnames, t, ht, ?_, ⟨idEntry, hid, ?_⟩, ⟨labelEntry, hlabel, ?_⟩, ?_⟩
  · refine (htable "Things for sale").mpr ⟨annotatedItems.descriptions.take 2, _,
      annotatedItems.descriptions.drop 3, rfl, ?_, rfl, ?_⟩ <;> decide
  · refine (hid_text "Key").mpr ⟨annotatedItems.descriptions.take 1, _,
      annotatedItems.descriptions.drop 2, rfl, ?_, rfl, ?_⟩ <;> decide
  · rw [hlabel_member]
    decide
  · refine (hpassed (annotatedItems.descriptions.take 4) ⟨60001, 1259, 65537, "Not a column"⟩ [] rfl
      fun c _ _ => .outOfRange (by decide)).trans ht

end SchemaSurvey
