/-
  `Tree` — the structure of a JSON text, faults included.

  `Tree.ofTokens` builds a tree from any list of tokens. Where the text goes wrong the tree says
  how: a missing value is `absent` with its fault, and an array or object has an `Ending`. What a
  fault is called can depend on who reads, so the tree records the situation and readers name it. A
  reader that walks the tree in order meets the faults in the order of the text.

  The builder is a machine that takes one token at a time and never looks ahead.
-/
import SchemaSurvey.Json.Token

namespace SchemaSurvey.Json

/-- How an array or object ends. -/
inductive Ending where
  | closed
  /-- The text ends where a comma or the closing bracket is due. -/
  | cut
  /-- Something else stands where a comma or the closing bracket is due. -/
  | noSeparator
  /-- The closing bracket follows a comma. -/
  | trailingComma
  /-- The text ends after a comma. -/
  | cutAfterComma
  /-- Something else stands where the key of an object's member is due. -/
  | noKey (t : Token)

/-- The structure of a text, as far as it goes. -/
inductive Tree where
  | scalar (s : Scalar)
  | array (items : List Tree) (ending : Ending)
  | object (members : List (Reading String × Tree)) (ending : Ending)
  /-- There is no value where one is due. -/
  | absent (fault : Fault)

/-- A member of an object. -/
abbrev Member := Reading String × Tree

namespace Tree

/-! ### Building -/

/-- An enclosing array or object that waits for one of its values. Finished parts are held last
first. -/
inductive Frame where
  | item (done : List Tree)
  | member (done : List Member) (key : Reading String)

/-- What the next token may be. -/
inductive Due where
  | value
  | firstItem
  | nextItem (done : List Tree)
  | itemEnd (done : List Tree)
  | firstKey
  | nextKey (done : List Member)
  | colon (done : List Member) (key : Reading String)
  | memberEnd (done : List Member)

/-- The builder's state. -/
inductive State where
  | building (due : Due) (frames : List Frame)
  /-- The outermost value is complete. -/
  | complete (t : Tree)
  /-- The outermost value is complete and something follows it. -/
  | trailing (t : Tree)
  /-- The text went wrong; what follows does not matter. -/
  | stuck (t : Tree)

/-- Wraps a faulty tree into the frames around it. -/
def enclose (t : Tree) : List Frame → Tree
  | [] => t
  | .item done :: frames => enclose (.array (t :: done).reverse .cut) frames
  | .member done key :: frames => enclose (.object ((key, t) :: done).reverse .cut) frames

/-- Hands a complete value to the innermost frame. -/
def deliver (t : Tree) : List Frame → State
  | [] => .complete t
  | .item done :: frames => .building (.itemEnd (t :: done)) frames
  | .member done key :: frames => .building (.memberEnd ((key, t) :: done)) frames

/-- Starts a value with its first token. -/
def begin (frames : List Frame) : Token → State
  | .scalar s => deliver (.scalar s) frames
  | .openArray => .building .firstItem frames
  | .openObject => .building .firstKey frames
  | _ => .stuck (enclose (.absent .expectedValue) frames)

/-- Starts a member with its first token. -/
def beginMember (done : List Member) (frames : List Frame) : Token → State
  | .scalar (.string key) => .building (.colon done key) frames
  | t => .stuck (enclose (.object done.reverse (.noKey t)) frames)

/-- Takes a token while the outermost value is incomplete. -/
def take (frames : List Frame) : Due → Token → State
  | .value, t => begin frames t
  | .firstItem, .closeArray => deliver (.array [] .closed) frames
  | .firstItem, t => begin (.item [] :: frames) t
  | .nextItem done, .closeArray => .stuck (enclose (.array done.reverse .trailingComma) frames)
  | .nextItem done, t => begin (.item done :: frames) t
  | .itemEnd done, .closeArray => deliver (.array done.reverse .closed) frames
  | .itemEnd done, .comma => .building (.nextItem done) frames
  | .itemEnd done, _ => .stuck (enclose (.array done.reverse .noSeparator) frames)
  | .firstKey, .closeObject => deliver (.object [] .closed) frames
  | .firstKey, t => beginMember [] frames t
  | .nextKey done, .closeObject => .stuck (enclose (.object done.reverse .trailingComma) frames)
  | .nextKey done, t => beginMember done frames t
  | .colon done key, .colon => .building .value (.member done key :: frames)
  | .colon done key, _ => .stuck (enclose (.absent .expectedColon) (.member done key :: frames))
  | .memberEnd done, .closeObject => deliver (.object done.reverse .closed) frames
  | .memberEnd done, .comma => .building (.nextKey done) frames
  | .memberEnd done, _ => .stuck (enclose (.object done.reverse .noSeparator) frames)

/-- Takes the next token. -/
def step : State → Token → State
  | .building due frames, t => take frames due t
  | .complete t, _ => .trailing t
  | s, _ => s

/-- The tree of a text that ends while something is due. -/
def cutOff (frames : List Frame) : Due → Tree
  | .value => enclose (.absent .endInValue) frames
  | .firstItem => enclose (.array [] .cut) frames
  | .nextItem done => enclose (.array done.reverse .cutAfterComma) frames
  | .itemEnd done => enclose (.array done.reverse .cut) frames
  | .firstKey => enclose (.object [] .cut) frames
  | .nextKey done => enclose (.object done.reverse .cutAfterComma) frames
  | .colon done key => enclose (.absent .endInObject) (.member done key :: frames)
  | .memberEnd done => enclose (.object done.reverse .cut) frames

/-- The tree and whether something follows it. -/
def finish : State → Tree × Bool
  | .building due frames => (cutOff frames due, false)
  | .complete t | .stuck t => (t, false)
  | .trailing t => (t, true)

/-- The tree of a list of tokens, and whether tokens are left over. -/
def ofTokens (tokens : List Token) : Tree × Bool :=
  finish (tokens.foldl step (.building .value []))

end Tree

/-! ### Endings, by reader -/

namespace Ending

/-- The end of an array whose items are wanted. -/
def ofItems : Ending → Except Fault Unit
  | closed => .ok ()
  | cut => .error .endInList
  | noSeparator | noKey _ => .error .expectedListCommaOrEnd
  | trailingComma => .error .trailingComma
  | cutAfterComma => .error .endInValue

/-- The end of an array from which no more items are wanted. -/
def ofSurplus : Ending → Except Fault Unit
  | closed => .ok ()
  | cut => .error .endInList
  | trailingComma => .error .trailingComma
  | noSeparator | cutAfterComma | noKey _ => .error .trailingCharacters

/-- The end of an object whose members are wanted. -/
def ofMembers : Ending → Except Fault Unit
  | closed => .ok ()
  | cut => .error .endInObject
  | noSeparator => .error .expectedObjectCommaOrEnd
  | trailingComma => .error .trailingComma
  | cutAfterComma => .error .endInValue
  | noKey _ => .error .keyNotString

/-- The end of an array that is skipped. -/
def ofSkippedItems : Ending → Except Fault Unit
  | trailingComma => .error .expectedValue
  | e => e.ofItems

/-- The end of an object that is skipped. -/
def ofSkippedMembers : Ending → Except Fault Unit
  | trailingComma => .error .keyNotString
  | cutAfterComma => .error .endInObject
  | e => e.ofMembers

end Ending

namespace Tree

/-! ### Skipping and checking -/

/-- What a tree is found to be. Of an array or object only the bracket counts. -/
def found : Tree → Except Fault Found
  | scalar s => s.found
  | array .. => .ok .array
  | object .. => .ok .object
  | absent fault => .error fault

/-- Skips a scalar. -/
def skipScalar : Scalar → Except Fault Unit
  | .null | .bool _ => .ok ()
  | .misspelt fault => .error fault
  | .number n => n.skipped
  | .string s => s.skipped

mutual

/-- Skips a value, however deep. -/
def skip : Tree → Except Fault Unit
  | scalar s => skipScalar s
  | array items ending => do skipItems items; ending.ofSkippedItems
  | object members ending => do skipMembers members; ending.ofSkippedMembers
  | absent fault => .error fault

/-- Skips the items of an array. -/
def skipItems : List Tree → Except Fault Unit
  | [] => .ok ()
  | t :: ts => do t.skip; skipItems ts

/-- Skips the members of an object. -/
def skipMembers : List (Reading String × Tree) → Except Fault Unit
  | [] => .ok ()
  | (key, t) :: ms => do key.skipped; t.skip; skipMembers ms

end

/-- Enters an array or object. A reader at `depth` may enter less than `depth` levels more. -/
def enter : Nat → Except Fault Nat
  | depth + 2 => .ok (depth + 1)
  | _ => .error .recursionLimit

mutual

/-- Makes sure that a value can be kept as a whole, whatever it is. -/
def check (depth : Nat) : Tree → Except Fault Unit
  | scalar s => do let _ ← s.found
  | array items ending => do
    checkItems (← enter depth) items
    ending.ofItems
  | object members ending => do
    checkMembers (← enter depth) members
    ending.ofMembers
  | absent fault => .error fault

/-- Makes sure of the items of an array. -/
def checkItems (depth : Nat) : List Tree → Except Fault Unit
  | [] => .ok ()
  | t :: ts => do t.check depth; checkItems depth ts

/-- Makes sure of the members of an object. -/
def checkMembers (depth : Nat) : List (Reading String × Tree) → Except Fault Unit
  | [] => .ok ()
  | (key, t) :: ms => do
    let _ ← key.kept
    t.check depth
    checkMembers depth ms

end

/-- The tree of a text, and whether something follows the value. -/
def ofText (text : String) : Tree × Bool := ofTokens (Token.all text.toList)

end Tree

end SchemaSurvey.Json
