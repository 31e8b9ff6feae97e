/-
  `Access` — reading and replacing the file at a path.

  A path is a text of names set apart by slashes, followed from the root: every name but the last
  has to be that of a directory, `.` and the empty name stay in place, and `..` goes up, at the root
  nowhere.

  A file is replaced as a whole: the new content is written to a temporary file, which then takes
  the place of the old one. If it cannot, it is removed.
-/
import SchemaSurvey.FileTree.Basic

namespace SchemaSurvey

/-- Why a file cannot be read or replaced. -/
inductive SystemError where
  | noEntry
  | notDirectory
  | isDirectory
  /-- The last name of the path is none: it is `.` or `..`. -/
  | busy
  /-- The path holds U+0000. -/
  | nulInPath
  | notText
deriving DecidableEq

/-- What the system says. -/
def SystemError.message : SystemError → String
  | noEntry => "No such file or directory (os error 2)"
  | notDirectory => "Not a directory (os error 20)"
  | isDirectory => "Is a directory (os error 21)"
  | busy => "Device or resource busy (os error 16)"
  | nulInPath => "file name contained an unexpected NUL byte"
  | notText => "stream did not contain valid UTF-8"

namespace FileTree

/-! ### Paths -/

/-- The names of a path, among them empty ones. -/
def names (path : String) : List String := (path.toList.splitOn '/').map String.ofList

/-- Whether a name leaves one in place. -/
def isIdle (name : String) : Bool := name == "" || name == "."

/-- Refuses paths that cannot be handed to the system. -/
def checkPath (path : String) : Except SystemError Unit :=
  if path.contains '\x00' then .error .nulInPath
  else if path.isEmpty then .error .noEntry
  else .ok ()

/-- The directory at a place. -/
def directory (t : FileTree) (place : Place) : Except SystemError (Directory t) :=
  match h : t.get? place with
  | some .directory => .ok ⟨place, h⟩
  | some (.file _) => .error .notDirectory
  | none => .error .noEntry

/-- Follows a name from a place. -/
def follow (t : FileTree) (place : Place) (name : String) : Except SystemError Place := do
  let _ ← t.directory place
  if isIdle name then .ok place
  else if name = ".." then .ok place.dropLast
  else .ok (place ++ [name])

/-- Follows names from the root. -/
def walk (t : FileTree) (names : List String) : Except SystemError Place :=
  names.foldlM t.follow []

/-! ### Reading -/

/-- The content of the file at a path. -/
def content (t : FileTree) (path : String) : Except SystemError ByteArray := do
  checkPath path
  match t.get? (← t.walk (names path)) with
  | some (.file content) => .ok content
  | some .directory => .error .isDirectory
  | none => .error .noEntry

/-- The text of the file at a path. -/
def text (t : FileTree) (path : String) : Except SystemError String := do
  match String.fromUTF8? (← t.content path) with
  | some s => .ok s
  | none => .error .notText

/-! ### Replacing -/

/-- The place that a path means as one to put a file in. -/
def target (t : FileTree) (path : String) : Except SystemError (Target t) := do
  checkPath path
  let reversed := (names path).reverse
  let spelled := reversed.dropWhile (· = "")
  let directory ← t.directory (← t.walk spelled.tail.reverse)
  match spelled.head? with
  | none => .error .busy
  | some name =>
    if name = "." ∨ name = ".." then .error .busy
    else if spelled ≠ reversed then .error .notDirectory
    else if isFree : t.get? (directory ++ [name]) = some .directory then .error .isDirectory
    else .ok { directory, name, isFree }

/-- Moves a file to a path; a file that is there is replaced. -/
def rename (t : FileTree) (source : Place) (path : String) : Except SystemError FileTree :=
  match t.get? source with
  | some (.file content) => do
    let target ← t.target path
    let placed := t.put target (.file content)
    .ok (if target.place = source then placed else placed.remove source)
  | some .directory => .error .isDirectory
  | none => .error .noEntry

/-- The directory in which the temporary file for a path is made: that of the path without its last
name, where a name that leaves one in place does not count as the last. -/
def workplace (t : FileTree) (path : String) : Except SystemError (Directory t) := do
  let above := ((names path).filter fun name => !isIdle name).dropLast
  if above.any fun name => name.contains '\x00' then .error .nulInPath
  t.directory (← t.walk above)

/-- All names in the tree. -/
def allNames (t : FileTree) : List String := t.entries.keys.flatten

/-- How many characters some names have altogether. -/
def totalLength : List String → Nat
  | [] => 0
  | name :: names => name.length + totalLength names

/-- A name for a temporary file: longer than every name in the tree and than the path it is for. -/
def temporaryName (t : FileTree) (path : String) : String :=
  ".tmp" ++ String.ofList (.replicate (path.length + totalLength t.allNames) 'x')

theorem length_le_totalLength {name : String} {names : List String} (h : name ∈ names) :
    name.length ≤ totalLength names := by
  induction names with
  | nil => simp at h
  | cons n ns ih =>
    rcases List.mem_cons.1 h with rfl | h
    · exact Nat.le_add_right ..
    · exact Nat.le_trans (ih h) (Nat.le_add_left ..)

/-- **The temporary name is free** in every directory. -/
theorem get?_temporaryName (t : FileTree) (path : String) (place : Place) :
    t.get? (place ++ [t.temporaryName path]) = none := by
  refine Option.eq_none_iff_forall_ne_some.2 fun e h => ?_
  have mem_keys : place ++ [t.temporaryName path] ∈ t.entries.keys :=
    List.mem_map.2 ⟨_, SortedMap.mem_toList_iff.2 h, rfl⟩
  have mem_names : t.temporaryName path ∈ t.allNames :=
    List.mem_flatten.2 ⟨_, mem_keys, by simp⟩
  have := length_le_totalLength mem_names
  have length_start : ".tmp".length = 4 := rfl
  simp only [temporaryName, String.length_append, String.length_ofList, List.length_replicate]
    at this
  omega

/-- The temporary file for a path. -/
def temporary (t : FileTree) (path : String) (directory : Directory t) : Target t where
  directory
  name := t.temporaryName path
  isFree := by simp [get?_temporaryName]

/-- Replaces the file at a path, or makes one. Returns what became of it and the tree afterwards. -/
def replace (t : FileTree) (path : String) (content : ByteArray) :
    Except SystemError Unit × FileTree :=
  match t.workplace path with
  | .error e => (.error e, t)
  | .ok directory =>
    let temporary := t.temporary path directory
    let written := t.put temporary (.file content)
    match written.rename temporary.place path with
    | .ok renamed => (.ok (), renamed)
    | .error e => (.error e, written.remove temporary.place)

/-! ### Making trees -/

/-- Makes a directory at a place, unless something stands there or nothing can. -/
def makeDirectory (t : FileTree) (above : Place) (name : String) : FileTree :=
  if h : t.get? above = some .directory ∧ t.get? (above ++ [name]) = none then
    t.put { directory := ⟨above, h.1⟩, name, isFree := by simp [h.2] } .directory
  else t

/-- Makes the directories that names lead through, from a place on. -/
def makeDirectories (t : FileTree) (place : Place) : List String → FileTree
  | [] => t
  | name :: names =>
    let made := if isIdle name || name == ".." then t else t.makeDirectory place name
    match made.follow place name with
    | .ok next => made.makeDirectories next names
    | .error _ => made

/-- Puts a file at a path, with the directories above it. -/
def install (t : FileTree) (path : String) (content : ByteArray) : FileTree :=
  ((t.makeDirectories [] (names path).dropLast).replace path content).2

/-- The tree of some files, by path. -/
def ofFiles (files : List (String × ByteArray)) : FileTree :=
  files.foldl (fun t file => t.install file.1 file.2) ∅

end FileTree

end SchemaSurvey
