/-
  `Codec` — how a type is written as JSON and read back.

  A codec pairs a writer to `Json` with a reader of `Tree`s, so the two are given together and
  composed together: for strings, numbers, lists, maps, and optional values here, for records in
  `Json.Record`. A reader walks its tree in text order and reports the first fault it meets. It is
  told how many levels of nesting are left; a text may nest 127 deep where a value is kept.
-/
import SchemaSurvey.Json.Tree
import SchemaSurvey.Json.Value
import SchemaSurvey.SortedMap.Basic

namespace SchemaSurvey.Json

/-- How a type is written and read. -/
structure Codec (α : Type) where
  write : α → Json
  read : Nat → Tree → Except Fault α

namespace Codec

variable {α β : Type}

/-- One more than the levels of nesting that a text may have. -/
def maxDepth : Nat := 128

/-- Reads a whole text. What follows the value is looked at last. -/
def ofText (c : Codec α) (text : String) : Except Fault α := do
  let (tree, trailing) := Tree.ofText text
  let a ← c.read maxDepth tree
  if trailing then .error .trailingCharacters else .ok a

/-- The compact text of a value. -/
def compact (c : Codec α) (a : α) : String := (c.write a).compact

/-- The indented text of a value. -/
def pretty (c : Codec α) (a : α) : String := (c.write a).pretty

/-- Refuses a tree that is not what was wanted. -/
def refuse (wanted : Wanted) (t : Tree) : Except Fault α := do
  .error (.invalidType (← t.found) wanted)

/-- Strings. -/
def string : Codec String where
  write := .string
  read
    | _, .scalar (.string s) => s.kept
    | _, t => refuse .string t

/-- Natural numbers below `2 ^ bits`. -/
def unsigned (bits : Nat) : Codec (Fin (Nat.pow 2 bits)) where
  write n := .natural n
  read
    | _, .scalar (.number n) => do
      match ← n.kept with
      | .integer z =>
        if h : 0 ≤ z ∧ z.toNat < Nat.pow 2 bits then .ok ⟨z.toNat, h.2⟩
        else .error (.invalidInteger z (.unsigned bits))
      | other => .error (.invalidType (.number other) (.unsigned bits))
    | _, t => refuse (.unsigned bits) t

/-- A type in bijection with one that has a codec. -/
def map (c : Codec α) (into : β → α) (of : α → β) : Codec β where
  write b := c.write (into b)
  read depth t := (c.read depth t).map of

/-- An optional value, written as null when there is none. -/
def optional (c : Codec α) : Codec (Option α) where
  write
    | some a => c.write a
    | none => .null
  read
    | _, .scalar .null => .ok none
    | depth, t => (c.read depth t).map some

/-- Lists, as arrays. -/
def list (c : Codec α) : Codec (List α) where
  write as := .array (as.map c.write)
  read
    | depth, .array items ending => do
      let inner ← Tree.enter depth
      let as ← items.mapM (c.read inner)
      ending.ofItems
      .ok as
    | _, t => refuse .sequence t

/-- Reads members into a map; a later member replaces an earlier one with the same key. -/
def readMembers (c : Codec α) (depth : Nat) :
    List Member → SortedMap String α → Except Fault (SortedMap String α)
  | [], m => .ok m
  | (key, t) :: ms, m => do
    let k ← key.kept
    let a ← c.read depth t
    readMembers c depth ms (m.insert k a)

/-- Maps from strings, as objects whose members ascend by key. -/
def sortedMap (c : Codec α) : Codec (SortedMap String α) where
  write m := .object (m.toList.map fun e => (e.1, c.write e.2))
  read
    | depth, .object members ending => do
      let inner ← Tree.enter depth
      let m ← readMembers c inner members ∅
      ending.ofMembers
      .ok m
    | _, t => refuse .map t

end Codec

end SchemaSurvey.Json
