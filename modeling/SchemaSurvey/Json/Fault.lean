/-
  `Fault` — everything that can be wrong with a JSON text.

  A fault is a cause, not a sentence: it names what was found and what was wanted. The sentences are
  in `Fault.message`.
-/
import SchemaSurvey.Binary64
import SchemaSurvey.Text.Shown

namespace SchemaSurvey.Json

/-- A number as read: an integer of at most 64 bits, or a double. -/
inductive Number where
  | integer (n : Int)
  | floating (negative : Bool) (magnitude : Binary64)
deriving DecidableEq

/-- A value that is not what was wanted. -/
inductive Found where
  | null
  | bool (b : Bool)
  | number (n : Number)
  | string (s : String)
  | array
  | object
deriving DecidableEq

/-- What a reader wants. -/
inductive Wanted where
  | record (name : String)
  | map
  | sequence
  | string
  | unsigned (bits : Nat)
  | unit
  | variantName
  /-- An object or array that carries the name of a variant. -/
  | tagged (name : String)
deriving DecidableEq

/-- What an array has to hold to be read as a record. -/
inductive Arity where
  | record (name : String) (count : Nat)
  | variant (name : String) (count : Nat)
  /-- An array read up to its end that holds too many items. -/
  | sequence (count : Nat)
deriving DecidableEq

/-- What is wrong with a text. -/
inductive Fault where
  -- The text ends too early.
  | endInValue
  | endInObject
  | endInList
  | endInString
  -- A character is out of place.
  | expectedValue
  | expectedIdent
  | expectedColon
  | expectedListCommaOrEnd
  | expectedObjectCommaOrEnd
  | keyNotString
  | trailingComma
  | trailingCharacters
  -- A token is malformed.
  | invalidNumber
  | numberOutOfRange
  | invalidEscape
  | controlCharacter
  | loneSurrogate
  | unfinishedSurrogate
  | recursionLimit
  -- The value is well formed but not what was wanted.
  | invalidType (found : Found) (wanted : Wanted)
  | invalidInteger (n : Int) (wanted : Wanted)
  | invalidLength (length : Nat) (arity : Arity)
  | unknownVariant (name : String) (variants : List String)
  /-- None of the alternatives of a type fits. -/
  | noAlternative (type : String)
  | duplicateField (name : String)
  | missingField (name : String)
deriving DecidableEq

/-! ### Sentences -/

/-- Doubles are written positionally below `10 ^ 16` and down to `10 ^ -5`; a written exponent has a
sign and at least two digits. -/
def Number.style : Binary64.Style := ⟨-5, 15, 2⟩

/-- How a number is shown. -/
def Number.shown : Number → String
  | integer n => s!"integer `{n}`"
  | floating negative magnitude =>
    let sign := if negative then "-" else ""
    let digits := String.ofList (magnitude.shortest.text Number.style)
    s!"floating point `{sign}{digits}`"

/-- How a value that was found is named. -/
def Found.shown : Found → String
  | null => "null"
  | bool b => s!"boolean `{b}`"
  | number n => n.shown
  | string s => "string " ++ Text.shown s
  | array => "sequence"
  | object => "map"

/-- How a wanted value is named. -/
def Wanted.shown : Wanted → String
  | record name => "struct " ++ name
  | map => "a map"
  | sequence => "a sequence"
  | string => "a string"
  | unsigned bits => s!"u{bits}"
  | unit => "unit"
  | variantName => "variant identifier"
  | tagged name => "internally tagged enum " ++ name

/-- A number of elements. -/
def elements (count : Nat) : String :=
  if count = 1 then "1 element" else s!"{count} elements"

/-- How a wanted array is named. -/
def Arity.shown : Arity → String
  | record name count => s!"struct {name} with {elements count}"
  | variant name count => s!"struct variant {name} with {elements count}"
  | sequence count => s!"{elements count} in sequence"

/-- The names to choose from. -/
def alternatives : List String → String
  | [a, b] => s!"`{a}` or `{b}`"
  | names => "one of " ++ ", ".intercalate (names.map fun name => s!"`{name}`")

/-- The sentence for a fault. -/
def Fault.message : Fault → String
  | endInValue => "EOF while parsing a value"
  | endInObject => "EOF while parsing an object"
  | endInList => "EOF while parsing a list"
  | endInString => "EOF while parsing a string"
  | expectedValue => "expected value"
  | expectedIdent => "expected ident"
  | expectedColon => "expected `:`"
  | expectedListCommaOrEnd => "expected `,` or `]`"
  | expectedObjectCommaOrEnd => "expected `,` or `\x7d`"
  | keyNotString => "key must be a string"
  | trailingComma => "trailing comma"
  | trailingCharacters => "trailing characters"
  | invalidNumber => "invalid number"
  | numberOutOfRange => "number out of range"
  | invalidEscape => "invalid escape"
  | controlCharacter => "control character (\\u0000-\\u001F) found while parsing a string"
  | loneSurrogate => "lone leading surrogate in hex escape"
  | unfinishedSurrogate => "unexpected end of hex escape"
  | recursionLimit => "recursion limit exceeded"
  | invalidType found wanted => s!"invalid type: {found.shown}, expected {wanted.shown}"
  | invalidInteger n wanted => s!"invalid value: integer `{n}`, expected {wanted.shown}"
  | invalidLength length arity => s!"invalid length {length}, expected {arity.shown}"
  | unknownVariant name variants => s!"unknown variant `{name}`, expected {alternatives variants}"
  | noAlternative type => s!"data did not match any variant of untagged enum {type}"
  | duplicateField name => s!"duplicate field `{name}`"
  | missingField name => s!"missing field `{name}`"

end SchemaSurvey.Json
