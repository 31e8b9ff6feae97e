/-
  `Defaults` — what a deployment file may leave out.

  `Configuration.shape` lists the members of a deployment file, those of its tables, columns and
  queries included, each with its default or as required. Since configurations follow their shape,
  the defaults that are put in on reading are those that may be left out of what is written
  (`ofText_leftOut`): any choice of them at once, and no required member beside them.
-/
import SchemaSurvey.Deployment
import SchemaSurvey.Proofs.Formats

namespace SchemaSurvey.Deployment

open Json

/-- **Defaults agree with what may be left out.** Nothing has to be left out of a configuration.
Whichever members that have their defaults are left out of its JSON, at any depth and in any layout,
it is read as before. But if a required member is missing anywhere, however much is left out beside
it, the text cannot be decoded, and the failure names the member. -/
theorem ofText_leftOut (c : Configuration) {l : Layout} (hl : l.Blank) {blanks : String}
    (hblanks : ∀ c ∈ blanks.toList, Token.isBlank c = true) :
    Configuration.shape.Abridges (Configuration.codec.write c) (Configuration.codec.write c) ∧
    (∀ v, Configuration.shape.Abridges (Configuration.codec.write c) v →
      ofText (v.render l ++ blanks) = .ok c) ∧
    ∀ name v, Configuration.shape.Lacks name (Configuration.codec.write c) v →
      ofText (v.render l ++ blanks) =
        .error ⟨.decode, "json_error", (Fault.missingField name).message⟩ := by
  have hfollows := Configuration.follows_codec
  refine ⟨hfollows.abridges_self c, fun v hv => ?_, fun name v hv => ?_⟩
  · have hfits : v.Fits := hv.fits (hfollows.fits c)
    have hread : Configuration.codec.read Codec.maxDepth v.tree = .ok c :=
      hfollows.read_of_abridges c v Codec.maxDepth (by decide) hv
    rw [ofText, Codec.ofText_render hl hblanks hfits, hread]
    rfl
  · have hfits : v.Fits := hv.fits (hfollows.fits c)
    have hread : Configuration.codec.read Codec.maxDepth v.tree = .error (.missingField name) :=
      hfollows.read_of_lacks name c v Codec.maxDepth (by decide) hv
    rw [ofText, Codec.ofText_render hl hblanks hfits, hread]
    rfl

/-! ### A short file -/

/-- A table of two columns, one of which admits null, behind a pool that keeps idle connections. -/
def notebook : Configuration where
  version := 1
  connections := .one "postgres://localhost/notes"
  pool := { idleTimeout := none }
  metadata :=
    { tables := .ofList [("notes",
        { schema := "public"
          name := "notes"
          columns := .ofList [("id", { name := "id", type := "int4", nullability := .nonNullable }),
            ("text", { name := "text", type := "text" })] })] }

/-- A file of one table, in which only what differs from the defaults is written. The members of its
first column are given. -/
def shortFile (column : List (String × Json)) : Json :=
  .object [("version", .natural 1), ("connection_uris", .string "postgres://localhost/notes"),
    ("pool_settings", .object [("idle_timeout", .null)]),
    ("metadata", .object [("tables", .object [("notes", .object [
      ("schemaName", .string "public"), ("tableName", .string "notes"),
      ("columns", .object [("id", .object column),
        ("text", .object [("name", .string "text"), ("type", .string "text")])])])])])]

theorem abridges_pool : Configuration.Pool.shape.Abridges
    (Configuration.Pool.codec.write notebook.pool) (.object [("idle_timeout", .null)]) :=
  .record <| .left <| .left <| .kept (.whole _) <| .left .nil

theorem abridges_text : Document.Column.shape.Abridges
    (.object [("name", .string "text"), ("type", .string "text"), ("nullable", .string "nullable")])
    (.object [("name", .string "text"), ("type", .string "text")]) :=
  .record <| .kept (.whole _) <| .kept (.whole _) <| .left <| .absent (by decide) .nil

/-- The short file has the pool setting, the table and its columns; all else is left out. -/
theorem abridges_notebook :
    Configuration.shape.Abridges (Configuration.codec.write notebook)
      (shortFile [("name", .string "id"), ("type", .string "int4"),
        ("nullable", .string "nonNullable")]) :=
  .record <| .kept (.whole _) <| .kept (.whole _) <| .kept abridges_pool <|
    .kept (.record <| .kept (.entries <| .cons (.record <| .kept (.whole _) <| .kept (.whole _) <|
        .absent (by decide) <|
        .kept (.entries <|
          .cons (.record <| .kept (.whole _) <| .kept (.whole _) <| .kept (.whole _) <|
            .absent (by decide) .nil) <|
          .cons abridges_text .nil) <|
        .left <| .left .nil) .nil) <| .left .nil) <|
    .left <| .left .nil

/-- Without the type of a column it lacks a required member. -/
theorem lacks_notebook :
    Configuration.shape.Lacks "type" (Configuration.codec.write notebook)
      (shortFile [("name", .string "id"), ("nullable", .string "nonNullable")]) :=
  .record <| .kept (.whole _) <| .kept (.whole _) <| .kept abridges_pool <|
    .inside (.record <| .inside (.entries <| .here (.record <| .kept (.whole _) <|
        .kept (.whole _) <| .absent (by decide) <|
        .inside (.entries <|
          .here (.record <| .kept (.whole _) <| .missing <| .kept (.whole _) <|
            .absent (by decide) .nil) <|
          .cons abridges_text .nil) <|
        .left <| .left .nil) .nil) <| .left .nil) <|
    .left <| .left .nil

/-- The short file is read in full, but not without the type of a column. -/
theorem ofText_shortFile :
    Layout.pretty.Blank ∧ (∀ c ∈ "\n".toList, Token.isBlank c = true) ∧
    ofText ((shortFile [("name", .string "id"), ("type", .string "int4"),
      ("nullable", .string "nonNullable")]).render .pretty ++ "\n") = .ok notebook ∧
    ofText ((shortFile [("name", .string "id"),
      ("nullable", .string "nonNullable")]).render .pretty ++ "\n") =
        .error ⟨.decode, "json_error", "missing field `type`"⟩ := by
  have hblanks : ∀ c ∈ "\n".toList, Token.isBlank c = true := Codec.blank_lineEnd (by decide)
  obtain ⟨-, hread, hrefused⟩ := ofText_leftOut notebook Layout.blank_pretty hblanks
  exact ⟨Layout.blank_pretty, hblanks, hread _ abridges_notebook,
    hrefused "type" _ lacks_notebook⟩

end SchemaSurvey.Deployment
