/-
  `Value` — JSON values and their written text.

  A `Json` is what the program writes: null, natural numbers, strings, arrays and objects, whose
  members keep the order they are given in. A `Layout` says what stands between the tokens, so the
  compact and the indented text come from one writer and differ in white space only.

  The writer takes the text that follows as an argument and puts the value in front of it.
-/

namespace SchemaSurvey

/-- A JSON value to be written. -/
inductive Json where
  | null
  | natural (n : Nat)
  | string (s : String)
  | array (items : List Json)
  | object (members : List (String × Json))

namespace Json

/-! ### Strings -/

/-- The lower-case hexadecimal digit of a number below 16. -/
def hexDigit (n : Nat) : Char := Nat.digitChar n

/-- A character inside a written string. Only quotes, backslashes and control characters below
U+0020 are escaped; everything else stands for itself. -/
def escapeChar (c : Char) : List Char :=
  if c = '"' then ['\\', '"']
  else if c = '\\' then ['\\', '\\']
  else if c = '\x08' then ['\\', 'b']
  else if c = '\x0c' then ['\\', 'f']
  else if c = '\n' then ['\\', 'n']
  else if c = '\x0d' then ['\\', 'r']
  else if c = '\t' then ['\\', 't']
  else if c.toNat < 32 then
    ['\\', 'u', '0', '0', hexDigit (c.toNat / 16), hexDigit (c.toNat % 16)]
  else [c]

/-- The characters of a string, escaped. -/
def escape : List Char → List Char
  | [] => []
  | c :: cs => escapeChar c ++ escape cs

/-- A string in quotes, before `rest`. -/
def quote (s : String) (rest : List Char) : List Char :=
  '"' :: (escape s.toList ++ '"' :: rest)

/-! ### Layout -/

/-- What stands between the tokens of a written value. -/
structure Layout where
  /-- Before an item or a closing bracket at a given depth. -/
  gap : Nat → List Char
  /-- After the colon of a member. -/
  afterColon : List Char

/-- No white space at all. -/
def Layout.compact : Layout := ⟨fun _ => [], []⟩

/-- One item on a line, indented by two spaces for each level. -/
def Layout.pretty : Layout := ⟨fun depth => '\n' :: List.replicate (2 * depth) ' ', [' ']⟩

/-! ### Values -/

mutual

/-- Writes a value that stands at a given depth, before `rest`. Empty arrays and objects have no
space between their brackets. -/
def write (l : Layout) (depth : Nat) : Json → List Char → List Char
  | null, rest => 'n' :: 'u' :: 'l' :: 'l' :: rest
  | natural n, rest => Nat.toDigits 10 n ++ rest
  | string s, rest => quote s rest
  | array [], rest => '[' :: ']' :: rest
  | array (v :: vs), rest =>
    '[' :: (l.gap (depth + 1) ++ v.write l (depth + 1)
      (writeItems l (depth + 1) vs (l.gap depth ++ ']' :: rest)))
  | object [], rest => '{' :: '}' :: rest
  | object ((k, v) :: ms), rest =>
    '{' :: (l.gap (depth + 1) ++ quote k (':' :: (l.afterColon ++ v.write l (depth + 1)
      (writeMembers l (depth + 1) ms (l.gap depth ++ '}' :: rest)))))

/-- Writes the items after the first. -/
def writeItems (l : Layout) (depth : Nat) : List Json → List Char → List Char
  | [], rest => rest
  | v :: vs, rest => ',' :: (l.gap depth ++ v.write l depth (writeItems l depth vs rest))

/-- Writes the members after the first. -/
def writeMembers (l : Layout) (depth : Nat) : List (String × Json) → List Char → List Char
  | [], rest => rest
  | (k, v) :: ms, rest =>
    ',' :: (l.gap depth ++ quote k (':' :: (l.afterColon ++ v.write l depth
      (writeMembers l depth ms rest))))

end

/-- The text of a value in a given layout. -/
def render (l : Layout) (v : Json) : String := String.ofList (v.write l 0 [])

/-- The text without white space. -/
def compact (v : Json) : String := v.render .compact

/-- The indented text. -/
def pretty (v : Json) : String := v.render .pretty

end Json

end SchemaSurvey
