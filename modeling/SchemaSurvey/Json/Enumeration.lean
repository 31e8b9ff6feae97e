/-
  `Enumeration` — types with finitely many named values, as JSON strings.

  A value is written as its name. It is read from its name, or from an object whose only member has
  the name as its key and null as its value. Anything else is no value at all, so what stands there
  is not looked at any further.
-/
import SchemaSurvey.Json.Codec

namespace SchemaSurvey.Json

/-- Named values, in the order in which messages list the names. -/
structure Enumeration (α : Type) where
  all : List α
  name : α → String

namespace Enumeration

variable {α : Type}

/-- The value with a given name. -/
def ofName (e : Enumeration α) (name : String) : Except Fault α :=
  match e.all.find? fun a => e.name a == name with
  | some a => .ok a
  | none => .error (.unknownVariant name (e.all.map e.name))

/-- Reads null. -/
def readNull : Tree → Except Fault Unit
  | .scalar .null => .ok ()
  | t => Codec.refuse .unit t

/-- The end of an object after its first member. -/
def ofOnlyMember : List Member → Ending → Except Fault Unit
  | [], .closed => .ok ()
  | [], .cut => .error .endInObject
  | _, _ => .error .expectedValue

/-- Reads the members of an object, of which there should be one. -/
def readMembers (e : Enumeration α) : List Member → Ending → Except Fault α
  | [], .cut => .error .endInValue
  | [], .noKey t => do .error (.invalidType (← t.found) .variantName)
  | [], _ => .error .expectedValue
  | (key, t) :: rest, ending => do
    let a ← e.ofName (← key.kept)
    readNull t
    ofOnlyMember rest ending
    .ok a

/-- The codec of an enumeration. -/
def codec (e : Enumeration α) : Codec α where
  write a := .string (e.name a)
  read
    | _, .scalar (.string s) => do e.ofName (← s.kept)
    | depth, .object members ending => do
      let _ ← Tree.enter depth
      e.readMembers members ending
    | _, .absent fault => .error fault
    | _, _ => .error .expectedValue

end Enumeration

end SchemaSurvey.Json
