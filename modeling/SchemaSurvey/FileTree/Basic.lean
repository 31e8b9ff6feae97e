/-
  `FileTree` — a directory with everything below it.

  A tree says what stands at each place: a file with its content, a directory, or nothing. A place
  is the list of names that lead to it from the root. The root is a directory, and whatever stands
  anywhere stands in a directory; both belong to the type.

  `get?_put` and `get?_remove` say what the two changes do to the one view, `get?`.
-/
import SchemaSurvey.SortedMap.Lemmas

namespace SchemaSurvey

/-- What stands at a place. -/
inductive FileTree.Entry where
  | file (content : ByteArray)
  | directory

instance : DecidableEq FileTree.Entry
  | .file a, .file b =>
    if h : a.data = b.data then .isTrue (congrArg _ (ByteArray.ext h))
    else .isFalse fun e => h (congrArg ByteArray.data (FileTree.Entry.file.inj e))
  | .file _, .directory => .isFalse nofun
  | .directory, .file _ => .isFalse nofun
  | .directory, .directory => .isTrue rfl

/-- The names that lead from the root to a place. -/
abbrev FileTree.Place := List String

open FileTree in
/-- A directory with everything below it. -/
structure FileTree where
  entries : SortedMap Place Entry
  /-- The root is a directory. -/
  root : entries.get? [] = some .directory
  /-- What stands anywhere stands in a directory. -/
  closed : ∀ (place : Place) (name : String) (e : Entry),
    entries.get? (place ++ [name]) = some e → entries.get? place = some .directory

namespace FileTree

/-- What stands at a place. -/
def get? (t : FileTree) (place : Place) : Option Entry := t.entries.get? place

/-- Trees in which the same stands everywhere are the same. -/
theorem ext_get? {t u : FileTree} (h : ∀ place, t.get? place = u.get? place) : t = u := by
  cases t; cases u
  congr
  exact SortedMap.ext_get? h

/-- The empty directory. -/
def empty : FileTree where
  entries := SortedMap.empty.insert [] .directory
  root := by simp [SortedMap.get?_insert]
  closed place name e h := by simp [SortedMap.get?_insert] at h

instance : EmptyCollection FileTree := ⟨empty⟩

instance : Inhabited FileTree := ⟨empty⟩

/-! ### Changes -/

/-- A place where a directory stands. -/
abbrev Directory (t : FileTree) := { place : Place // t.get? place = some .directory }

/-- A place that can be given a new entry: it is in a directory and is none itself. -/
structure Target (t : FileTree) where
  directory : Directory t
  name : String
  isFree : t.get? (directory ++ [name]) ≠ some .directory

namespace Target

variable {t : FileTree}

/-- The place meant. -/
def place (target : Target t) : Place := target.directory ++ [target.name]

theorem directory_ne_place (target : Target t) : target.directory ≠ target.place := fun h => by
  simpa [place] using congrArg List.length h

end Target

/-- Puts an entry in place of what stands at the target, if anything does. -/
def put (t : FileTree) (target : Target t) (e : Entry) : FileTree where
  entries := t.entries.insert target.place e
  root := by
    rw [SortedMap.get?_insert, if_neg (by simp [Target.place]), t.root]
  closed place name e' h := by
    rw [SortedMap.get?_insert] at h ⊢
    split at h
    · rename_i heq
      obtain ⟨rfl, -⟩ := List.append_inj' heq rfl
      rw [if_neg target.directory_ne_place]
      exact target.directory.property
    · have in_directory := t.closed place name e' h
      rw [if_neg, in_directory]
      rintro rfl
      exact target.isFree in_directory

/-- **Putting changes one place.** -/
theorem get?_put (t : FileTree) (target : Target t) (e : Entry) (place : Place) :
    (t.put target e).get? place = if place = target.place then some e else t.get? place :=
  SortedMap.get?_insert ..

/-- Removes a file. Where there is no file, nothing changes. -/
def remove (t : FileTree) (place : Place) : FileTree :=
  match h : t.get? place with
  | some (.file _) =>
    { entries := t.entries.erase place
      root := by
        rw [SortedMap.get?_erase, if_neg, t.root]
        rintro rfl
        rw [get?, t.root] at h
        cases h
      closed := fun above name e he => by
        rw [SortedMap.get?_erase] at he ⊢
        split at he
        · cases he
        · have in_directory := t.closed above name e he
          rw [if_neg, in_directory]
          rintro rfl
          rw [get?, in_directory] at h
          cases h }
  | _ => t

/-- **Removing a file changes one place.** -/
theorem get?_remove {t : FileTree} {file : Place} {content : ByteArray}
    (h : t.get? file = some (.file content)) (place : Place) :
    (t.remove file).get? place = if place = file then none else t.get? place := by
  unfold remove
  split
  · exact SortedMap.get?_erase ..
  · rename_i hnot
    exact absurd h (hnot content)

/-! ### Listing -/

/-- The written form of a place: its names, set apart by slashes, and a slash after a directory. -/
def listing (place : Place) : Entry → String
  | .file _ => "/".intercalate place
  | .directory => "/".intercalate place ++ "/"

/-- Everything below the root, every directory before its content and the content of each in the
order of names. -/
def list (t : FileTree) : List String :=
  (t.entries.toList.filter fun e => e.1 != []).map fun e => listing e.1 e.2

/-- The files, with their contents. -/
def files (t : FileTree) : List (Place × ByteArray) :=
  t.entries.toList.filterMap fun e =>
    match e.2 with
    | .file content => some (e.1, content)
    | .directory => none

end FileTree

end SchemaSurvey
