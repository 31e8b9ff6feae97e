/-
  `Formats` — the persisted formats are read back.

  The formats of documents and configurations are records in records. Beside each codec stands its
  shape: which members have to be there and which have a default, with the default spelled out in
  JSON. That the codec follows the shape is one application for each field. What is particular to a
  format is what its fields leave out and the untagged form of connections.

  `Configuration.follows_codec` is the result for the members that may be left out,
  `Configuration.ofText_fileText` the result for deployment files, `formats_roundTrip` the result
  for the three formats that outlive a run: configurations, documents and failures.
-/
import SchemaSurvey.Configuration.Format
import SchemaSurvey.Failure
import SchemaSurvey.Proofs.Json.Abridging

namespace SchemaSurvey

open Json

/-! ### Documents -/

namespace Document

theorem Nullability.lawful_codec : Nullability.enumeration.codec.Lawful 0 :=
  Codec.lawful_enumeration fun a => by cases a <;> rfl

theorem write_string_ne_null (s : String) : Codec.string.write s ≠ .null := nofun

/-- A column admits null and has no description unless it says so. -/
def Column.shape : Shape :=
  .record <| .required "name" .whole <| .required "type" .whole <|
    .optional "nullable" (.string "nullable") .whole <|
    .optional "description" .null .whole .nil

theorem Column.follows_codec : Column.codec.Follows Column.shape 1 :=
  .record
    (.required Codec.lawful_string.follows (by decide) <|
      .required Codec.lawful_string.follows (by decide) <|
      .defaulted Nullability.lawful_codec.follows rfl (by decide) <|
      .optional Codec.lawful_string write_string_ne_null (by decide) .nil)
    fun _ => rfl

/-- Both members of a foreign key have to be there. -/
def ForeignKey.shape : Shape :=
  .record <| .required "foreignTable" .whole <| .required "columnMapping" (.entries .whole) .nil

theorem ForeignKey.follows_codec : ForeignKey.codec.Follows ForeignKey.shape 2 :=
  .record
    (.required (Codec.lawful_string.follows.mono (by decide)) (by decide) <|
      .required Codec.lawful_string.follows.sortedMap (by decide) .nil)
    fun _ => rfl

/-- A table has no description, no constraints and no foreign keys unless it says so. -/
def Table.shape : Shape :=
  .record <| .required "schemaName" .whole <| .required "tableName" .whole <|
    .optional "description" .null .whole <|
    .required "columns" (.entries Column.shape) <|
    .optional "uniquenessConstraints" (.object []) (.entries .whole) <|
    .optional "foreignRelations" (.object []) (.entries ForeignKey.shape) .nil

theorem Table.follows_codec : Table.codec.Follows Table.shape 4 :=
  .record
    (.required (Codec.lawful_string.follows.mono (by decide)) (by decide) <|
      .required (Codec.lawful_string.follows.mono (by decide)) (by decide) <|
      .optional (Codec.lawful_string.mono (by decide)) write_string_ne_null (by decide) <|
      .required (Column.follows_codec.sortedMap.mono (by decide)) (by decide) <|
      .defaulted (Codec.lawful_string.list.follows.sortedMap.mono (by decide)) rfl (by decide) <|
      .defaulted ForeignKey.follows_codec.sortedMap rfl (by decide) .nil)
    fun _ => rfl

/-- An aggregate function has to name its return type. -/
def Aggregate.shape : Shape := .record <| .required "returnType" .whole .nil

theorem Aggregate.follows_codec : Aggregate.codec.Follows Aggregate.shape 1 :=
  .record (.required Codec.lawful_string.follows (by decide) .nil) fun _ => rfl

theorem follows_tablesCodec : tablesCodec.Follows (.entries Table.shape) 5 :=
  Table.follows_codec.sortedMap

theorem follows_aggregatesCodec :
    aggregatesCodec.Follows (.entries (.entries Aggregate.shape)) 3 :=
  Aggregate.follows_codec.sortedMap.sortedMap

/-- Both members of a document have to be there. -/
def shape : Shape :=
  .record <| .required "Tables" (.entries Table.shape) <|
    .required "AggregateFunctions" (.entries (.entries Aggregate.shape)) .nil

theorem follows_codec : codec.Follows shape 6 :=
  .record
    (.required follows_tablesCodec (by decide) <|
      .required (follows_aggregatesCodec.mono (by decide)) (by decide) .nil)
    fun _ => rfl

theorem lawful_codec : codec.Lawful 6 := follows_codec.lawful

end Document

/-! ### Failures -/

/-- A failure is written with its kind first, so the kind is known before the other members come. -/
theorem Failure.lawful_codec : Failure.codec.Lawful 1 where
  fits _ := ⟨trivial, trivial, trivial, trivial⟩
  read_tree f depth hdepth := by
    obtain ⟨kind, code, message⟩ := f
    obtain ⟨inner, henter, -⟩ := Tree.enter_of_lt hdepth
    show (Tree.enter depth >>= fun inner => _) = _
    rw [henter]
    cases kind <;> rfl

/-! ### Configurations -/

namespace Configuration

namespace Connections

theorem strings?_trees (uris : List String) :
    strings? (trees (uris.map .string)) = some uris := by
  induction uris with
  | nil => rfl
  | cons uri uris ih =>
    rw [List.map_cons, trees, tree, strings?, ih]
    rfl

theorem checkItems_strings (depth : Nat) (uris : List String) :
    Tree.checkItems depth (trees (uris.map .string)) = .ok () := by
  induction uris with
  | nil => rfl
  | cons uri uris ih =>
    rw [List.map_cons, trees, Tree.checkItems, ih]
    rfl

theorem read_of_check {depth : Nat} {t : Tree} {c : Connections}
    (hcheck : t.check depth = .ok ()) (hread : ofTree? t = some c) :
    Connections.codec.read depth t = .ok c := by
  simp only [Connections.codec, hcheck, hread]
  rfl

/-- **Connections are told apart by their form:** one address is a string, a list is an array, also
one of a single address. -/
theorem lawful_codec : Connections.codec.Lawful 1 where
  fits
    | .one _ => trivial
    | .many uris => by
      refine itemsFit_iff.mpr fun v hv => ?_
      obtain ⟨uri, -, rfl⟩ := List.mem_map.mp hv
      trivial
  read_tree
    | .one uri, _, _ => rfl
    | .many uris, depth, hdepth => by
      obtain ⟨inner, henter, -⟩ := Tree.enter_of_lt hdepth
      have hcheck : (Tree.array (trees (uris.map .string)) .closed).check depth = .ok () := by
        rw [Tree.check, henter]
        show (Tree.checkItems inner (trees (uris.map .string)) >>= fun _ => _) = _
        rw [checkItems_strings]
        rfl
      have hread : Connections.ofTree? (.array (trees (uris.map .string)) .closed) =
          some (.many uris) := by
        rw [Connections.ofTree?, strings?_trees]
        rfl
      exact read_of_check hcheck hread

end Connections

theorem lawful_word32 : word32.Lawful 0 :=
  (Codec.lawful_unsigned (by decide)).map fun _ => rfl

theorem lawful_word64 : word64.Lawful 0 :=
  (Codec.lawful_unsigned (by decide)).map fun _ => rfl

theorem write_word64_ne_null (n : UInt64) : word64.write n ≠ .null := nofun

/-- Every pool setting has a default. -/
def Pool.shape : Shape :=
  .record <| .optional "max_connections" (.natural 50) .whole <|
    .optional "pool_timeout" (.natural 30) .whole <|
    .optional "idle_timeout" (.natural 180) .whole <|
    .optional "connection_lifetime" (.natural 600) .whole .nil

theorem Pool.follows_codec : Pool.codec.Follows Pool.shape 1 :=
  .record
    (.defaulted lawful_word32.follows rfl (by decide) <|
      .defaulted lawful_word64.follows rfl (by decide) <|
      .defaulted (lawful_word64.optional write_word64_ne_null).follows rfl (by decide) <|
      .defaulted (lawful_word64.optional write_word64_ne_null).follows rfl (by decide) .nil)
    fun _ => rfl

/-- A native query has no arguments unless it says so. -/
def NativeQuery.shape : Shape :=
  .record <| .required "sql" .whole <| .required "columns" (.entries Document.Column.shape) <|
    .optional "arguments" (.object []) (.entries Document.Column.shape) .nil

theorem NativeQuery.follows_codec : NativeQuery.codec.Follows NativeQuery.shape 3 :=
  .record
    (.required (Codec.lawful_string.follows.mono (by decide)) (by decide) <|
      .required Document.Column.follows_codec.sortedMap (by decide) <|
      .defaulted Document.Column.follows_codec.sortedMap rfl (by decide) .nil)
    fun _ => rfl

theorem follows_nativeQueriesCodec : nativeQueriesCodec.Follows (.entries NativeQuery.shape) 4 :=
  NativeQuery.follows_codec.sortedMap

/-- Nothing is served unless it is listed. -/
def Metadata.shape : Shape :=
  .record <| .optional "tables" (.object []) (.entries Document.Table.shape) <|
    .optional "nativeQueries" (.object []) (.entries NativeQuery.shape) .nil

theorem Metadata.follows_codec : Metadata.codec.Follows Metadata.shape 6 :=
  .record
    (.defaulted Document.follows_tablesCodec rfl (by decide) <|
      .defaulted (follows_nativeQueriesCodec.mono (by decide)) rfl (by decide) .nil)
    fun _ => rfl

/-- **What a deployment file has to say:** its version and where to connect. -/
def shape : Shape :=
  .record <| .required "version" .whole <| .required "connection_uris" .whole <|
    .optional "pool_settings"
      (.object [("max_connections", .natural 50), ("pool_timeout", .natural 30),
        ("idle_timeout", .natural 180), ("connection_lifetime", .natural 600)]) Pool.shape <|
    .optional "metadata" (.object [("tables", .object []), ("nativeQueries", .object [])])
      Metadata.shape <|
    .optional "aggregate_functions" (.object []) (.entries (.entries Document.Aggregate.shape)) <|
    .optional "excluded_schemas"
      (.array [.string "information_schema", .string "pg_catalog", .string "tiger",
        .string "crdb_internal", .string "columnar", .string "columnar_internal"]) .whole .nil

/-- **Configurations follow their shape.** Of their fields only default pool settings are left out
when they are written. -/
theorem follows_codec : codec.Follows shape 7 :=
  .record
    (.required (lawful_word32.follows.mono (by decide)) (by decide) <|
      .required (Connections.lawful_codec.follows.mono (by decide)) (by decide) <|
      .cons (Pool.follows_codec.mono (by decide)) (fun _ h => congrArg some (eq_of_beq h).symm)
        rfl (by decide) <|
      .defaulted Metadata.follows_codec rfl (by decide) <|
      .defaulted (Document.follows_aggregatesCodec.mono (by decide)) rfl (by decide) <|
      .defaulted (Codec.lawful_string.list.follows.mono (by decide)) rfl (by decide) .nil)
    fun _ => rfl

theorem lawful_codec : codec.Lawful 7 := follows_codec.lawful

/-- **What is written to a deployment file is read back from it.** -/
theorem ofText_fileText (c : Configuration) : codec.ofText c.fileText = .ok c :=
  lawful_codec.ofText_of_isText (by decide) ⟨"\n", by decide, .inr rfl⟩

end Configuration

/-- **The persisted formats round-trip,** for every value and every text. -/
theorem formats_roundTrip :
    Configuration.codec.RoundTrips ∧ Document.codec.RoundTrips ∧ Failure.codec.RoundTrips :=
  ⟨Configuration.lawful_codec.roundTrips (by decide), Document.lawful_codec.roundTrips (by decide),
    Failure.lawful_codec.roundTrips (by decide)⟩

end SchemaSurvey
