/-
  `Decoding` — which cells of a row can be read, and what is reported of one that cannot.

  Each table has its own reader of rows. Beside the readers stands the list of the table's columns,
  which says what kind of value each column holds. The two agree: a reader takes every column of its
  table once, in an order of its own (`SystemTable.readingOrder`), and takes it as a value of the
  column's kind (`Row.check_eq`). So a row can be read exactly when each of its cells decodes
  (`Row.check_eq_ok_iff`), and the first cell that does not is what is reported
  (`Row.check_eq_error_iff`).
-/
import SchemaSurvey.Proofs.Database.Steps

namespace SchemaSurvey

open Catalog (ColumnKind ColumnSpec SystemTable)

/-- The order in which the columns of a row are read, by their places. The two lists of columns of a
constraint come first. -/
def Catalog.SystemTable.readingOrder : SystemTable → List Nat
  | .constraints => [5, 7, 0, 1, 2, 3, 4, 6]
  | t => List.range t.columns.length

/-- Every column is read once. -/
theorem Catalog.SystemTable.perm_readingOrder (t : SystemTable) :
    t.readingOrder.Perm (List.range t.columns.length) := by
  cases t <;> decide

theorem Catalog.SystemTable.mem_readingOrder {t : SystemTable} {i : Nat} :
    i ∈ t.readingOrder ↔ i < t.columns.length := by
  rw [t.perm_readingOrder.mem_iff, List.mem_range]

namespace Database

/-- Whether a cell holds a value of the kind. A letter is the first of a text, so that a text
without letters holds none. Only a list of columns may be missing; in any list that is there, no
item may be missing. -/
def Cell.decodes : ColumnKind → Cell → Bool
  | .oid, oid _ | .smallInt, smallInt _ | .integer, integer _ | .boolean, boolean _ => true
  | .text, text _ => true
  | .letter, text s => s != ""
  | .oidArray, oidArray items => items.all Option.isSome
  | .smallIntArray, smallIntArray items => items.all Option.isSome
  | .smallIntArray, null => true
  | _, _ => false

theorem Cell.isSome_allPresent {α : Type} (items : List (Option α)) :
    (allPresent items).isSome = items.all Option.isSome := by
  induction items with
  | nil => rfl
  | cons item items ih =>
    cases item with
    | none => rfl
    | some a => rw [allPresent, Option.isSome_map, ih, List.all_cons, Option.isSome_some, Bool.true_and]

namespace Row

/-- Whether the cell at a place decodes as the column there. -/
def decodes (row : Row) (table : SystemTable) (i : Nat) : Bool :=
  match table.columns[i]?, row[i]? with
  | some column, some cell => cell.decodes column.kind
  | _, _ => false

/-- Whether the cell at a place should hold a letter, and holds a text without letters. -/
def lacksLetter (row : Row) (table : SystemTable) (i : Nat) : Bool :=
  match table.columns[i]?, row[i]? with
  | some column, some cell => column.kind == .letter && cell == .text ""
  | _, _ => false

/-- What is to be reported of a cell that does not decode. -/
def faultAt (row : Row) (table : SystemTable) (i : Nat) : CellError :=
  if row.lacksLetter table i then
    .noLetter ((table.columns[i]?.map ColumnSpec.name).getD "")
  else
    .unreadable i

/-- Checks the cell at a place. -/
def checkCell (row : Row) (table : SystemTable) (i : Nat) : Except CellError Unit :=
  if row.decodes table i then .ok () else .error (row.faultAt table i)

/-- The place of the first cell, in reading order, that does not decode. -/
def firstFault? (row : Row) (table : SystemTable) : Option Nat :=
  table.readingOrder.find? fun i => !row.decodes table i

/-! ### Column by column -/

section

variable {row : Row} {table : SystemTable} {i : Nat} {α : Type} {read? : Cell → Option α}
  {kind : ColumnKind}

/-- A column that is taken by a reader of its kind is checked. -/
theorem map_take (hcolumn : table.columns[i]?.map ColumnSpec.kind = some kind)
    (hletter : kind ≠ .letter) (hread : ∀ c, (read? c).isSome = c.decodes kind) :
    (row.take i read?).map (fun _ => ()) = row.checkCell table i := by
  obtain ⟨column, hplace, rfl⟩ := Option.map_eq_some_iff.mp hcolumn
  have hlacks : row.lacksLetter table i = false := by
    rw [lacksLetter, hplace]
    cases row[i]? <;> simp [hletter]
  rw [checkCell, faultAt, hlacks, decodes, hplace, take]
  cases row[i]? with
  | none => rfl
  | some cell =>
    simp only [Option.bind_some, ← hread cell]
    cases read? cell <;> rfl

theorem map_take_oid (h : table.columns[i]?.map ColumnSpec.kind = some .oid) :
    (row.take i Cell.oid?).map (fun _ => ()) = row.checkCell table i :=
  map_take h nofun fun c => by cases c <;> rfl

theorem map_take_smallInt (h : table.columns[i]?.map ColumnSpec.kind = some .smallInt) :
    (row.take i Cell.smallInt?).map (fun _ => ()) = row.checkCell table i :=
  map_take h nofun fun c => by cases c <;> rfl

theorem map_take_integer (h : table.columns[i]?.map ColumnSpec.kind = some .integer) :
    (row.take i Cell.integer?).map (fun _ => ()) = row.checkCell table i :=
  map_take h nofun fun c => by cases c <;> rfl

theorem map_take_boolean (h : table.columns[i]?.map ColumnSpec.kind = some .boolean) :
    (row.take i Cell.boolean?).map (fun _ => ()) = row.checkCell table i :=
  map_take h nofun fun c => by cases c <;> rfl

theorem map_take_text (h : table.columns[i]?.map ColumnSpec.kind = some .text) :
    (row.take i Cell.text?).map (fun _ => ()) = row.checkCell table i :=
  map_take h nofun fun c => by cases c <;> rfl

theorem map_take_oids (h : table.columns[i]?.map ColumnSpec.kind = some .oidArray) :
    (row.take i Cell.oids?).map (fun _ => ()) = row.checkCell table i := by
  refine map_take h nofun fun c => ?_
  cases c with
  | oidArray items => exact Cell.isSome_allPresent items
  | _ => rfl

theorem map_take_smallInts (h : table.columns[i]?.map ColumnSpec.kind = some .smallIntArray) :
    (row.take i Cell.smallIntsOrNone?).map (fun _ => ()) = row.checkCell table i := by
  refine map_take h nofun fun c => ?_
  cases c with
  | smallIntArray items => exact Cell.isSome_allPresent items
  | _ => rfl

/-- A letter is missing from an empty text, and unreadable where there is no text. -/
theorem map_takeLetter {name : String} {cast? : Option String}
    (hcolumn : table.columns[i]? = some ⟨name, .letter, cast?⟩) :
    (row.takeLetter i name).map (fun _ => ()) = row.checkCell table i := by
  rw [checkCell, faultAt, lacksLetter, decodes, hcolumn, takeLetter, take]
  cases row[i]? with
  | none => rfl
  | some cell =>
    cases cell with
    | text s =>
      cases hs : s.toList with
      | nil =>
        obtain rfl : s = "" := String.toList_eq_nil_iff.mp hs
        rfl
      | cons letter rest =>
        have hne : s ≠ "" := fun hs_empty => by
          rw [String.toList_eq_nil_iff.mpr hs_empty] at hs
          exact absurd hs (List.cons_ne_nil _ _).symm
        have hdecodes : (Cell.text s).decodes .letter = true := bne_iff_ne.mpr hne
        refine (congrArg (Except.map fun _ => ()) (?_ : _ = Except.ok letter)).trans
          (if_pos hdecodes).symm
        exact bind_eq_ok_iff.mpr ⟨s, rfl, by rw [hs]⟩
    | _ => rfl

end

/-! ### Row by row -/

/-- Columns that are taken one after another are checked one after another. -/
theorem map_bind {ε α β : Type} {x : Except ε α} {next : α → Except ε β} {first rest : Except ε Unit}
    (hfirst : x.map (fun _ => ()) = first) (hrest : ∀ a, (next a).map (fun _ => ()) = rest) :
    (x >>= next).map (fun _ => ()) = first >>= fun _ => rest := by
  subst hfirst
  cases x with
  | error e => rfl
  | ok a => exact hrest a

/-- **A reader takes the columns of its table,** each as a value of the column's kind. -/
theorem check_eq (row : Row) (table : SystemTable) :
    row.check table = table.readingOrder.forM (row.checkCell table) := by
  cases table with
  | namespaces => exact map_bind (map_take_oid rfl) fun _ => map_bind (map_take_text rfl) fun _ => rfl
  | classes =>
    exact map_bind (map_take_oid rfl) fun _ => map_bind (map_take_oid rfl) fun _ =>
      map_bind (map_take_text rfl) fun _ => map_bind (map_takeLetter rfl) fun _ => rfl
  | types =>
    exact map_bind (map_take_oid rfl) fun _ => map_bind (map_take_oid rfl) fun _ =>
      map_bind (map_take_text rfl) fun _ => map_bind (map_takeLetter rfl) fun _ =>
      map_bind (map_takeLetter rfl) fun _ => map_bind (map_take_oid rfl) fun _ => rfl
  | attributes =>
    exact map_bind (map_take_oid rfl) fun _ => map_bind (map_take_text rfl) fun _ =>
      map_bind (map_take_smallInt rfl) fun _ => map_bind (map_take_oid rfl) fun _ =>
      map_bind (map_take_boolean rfl) fun _ => map_bind (map_take_boolean rfl) fun _ => rfl
  | descriptions =>
    exact map_bind (map_take_oid rfl) fun _ => map_bind (map_take_oid rfl) fun _ =>
      map_bind (map_take_integer rfl) fun _ => map_bind (map_take_text rfl) fun _ => rfl
  | constraints =>
    exact map_bind (map_take_smallInts rfl) fun _ => map_bind (map_take_smallInts rfl) fun _ =>
      map_bind (map_take_oid rfl) fun _ => map_bind (map_take_oid rfl) fun _ =>
      map_bind (map_take_text rfl) fun _ => map_bind (map_take_oid rfl) fun _ =>
      map_bind (map_takeLetter rfl) fun _ => map_bind (map_take_oid rfl) fun _ => rfl
  | procedures =>
    exact map_bind (map_take_oid rfl) fun _ => map_bind (map_take_text rfl) fun _ =>
      map_bind (map_take_oid rfl) fun _ => map_bind (map_takeLetter rfl) fun _ =>
      map_bind (map_take_smallInt rfl) fun _ => map_bind (map_take_oids rfl) fun _ =>
      map_bind (map_take_oid rfl) fun _ => rfl
  | aggregates =>
    exact map_bind (map_take_oid rfl) fun _ => map_bind (map_take_smallInt rfl) fun _ => rfl

variable {row : Row} {table : SystemTable}

/-- Of cells that are checked one after another the first that does not decode is reported. -/
theorem forM_checkCell (places : List Nat) : places.forM (row.checkCell table) =
    match places.find? fun i => !row.decodes table i with
    | some i => .error (row.faultAt table i)
    | none => .ok () := by
  induction places with
  | nil => rfl
  | cons i places ih =>
    show (row.checkCell table i >>= fun _ => places.forM (row.checkCell table)) = _
    rw [checkCell]
    cases h : row.decodes table i with
    | true =>
      rw [List.find?_cons_of_neg (by simp [h])]
      exact ih
    | false =>
      rw [List.find?_cons_of_pos (by simp [h])]
      rfl

/-- **A row can be read if no cell is at fault.** -/
theorem check_eq_ok_iff : row.check table = .ok () ↔ row.firstFault? table = none := by
  rw [check_eq, forM_checkCell, firstFault?]
  cases table.readingOrder.find? fun i => !row.decodes table i <;> simp

/-- **The first cell that does not decode is reported.** -/
theorem check_eq_error_iff {e : CellError} : row.check table = .error e ↔
    ∃ i, row.firstFault? table = some i ∧ row.faultAt table i = e := by
  rw [check_eq, forM_checkCell, firstFault?]
  cases table.readingOrder.find? fun i => !row.decodes table i <;> simp

/-- No cell is at fault if each decodes: the reading order leaves no column out. -/
theorem firstFault?_eq_none_iff :
    row.firstFault? table = none ↔ ∀ i < table.columns.length, row.decodes table i = true := by
  simp [firstFault?, SystemTable.mem_readingOrder]

end Row

end Database

end SchemaSurvey
