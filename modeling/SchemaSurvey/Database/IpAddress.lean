/-
  `IpAddress` — the written forms of network addresses.

  An address of version 4 is four decimal numbers up to 255 without leading zeros, set apart by
  dots. An address of version 6 is eight groups of up to four hexadecimal digits, set apart by
  colons; one run of groups may be left out where two colons stand, and the last two groups may be
  written as an address of version 4.

  Each reader takes a written form from the front of a text and returns what follows it.
-/

namespace SchemaSurvey.Database.IpAddress

/-- Takes a character. -/
def takeChar? (expected : Char) : List Char → Option (List Char)
  | c :: cs => if c = expected then some cs else none
  | [] => none

/-- A hexadecimal digit. -/
def isHexDigit (c : Char) : Bool :=
  c.isDigit || ('a' ≤ c && c ≤ 'f') || ('A' ≤ c && c ≤ 'F')

/-- Takes a decimal number up to 255 without leading zeros. -/
def takeOctet? (cs : List Char) : Option (List Char) :=
  let digits := cs.takeWhile Char.isDigit
  let value := digits.foldl (fun n c => 10 * n + (c.toNat - '0'.toNat)) 0
  if digits = [] ∨ digits.length > 3 ∨ value > 255 ∨ (digits.head? = some '0' ∧ digits.length > 1)
  then none
  else some (cs.drop digits.length)

/-- Takes an address of version 4. -/
def takeVersion4? (cs : List Char) : Option (List Char) := do
  let cs ← takeOctet? cs
  let cs ← takeOctet? (← takeChar? '.' cs)
  let cs ← takeOctet? (← takeChar? '.' cs)
  takeOctet? (← takeChar? '.' cs)

/-- Takes a group of an address of version 6. -/
def takeGroup? (cs : List Char) : Option (List Char) :=
  let digits := cs.takeWhile isHexDigit
  if digits = [] ∨ digits.length > 4 then none else some (cs.drop digits.length)

/-- Takes groups, at most `room` of them, and an address of version 4 as two. Returns how many
groups were taken and whether such an address ended them. -/
def takeGroups : (room : Nat) → (isFirst : Bool) → List Char → Nat × Bool × List Char
  | 0, _, cs => (0, false, cs)
  | room + 1, isFirst, cs =>
    let start? := if isFirst then some cs else takeChar? ':' cs
    match if room = 0 then none else start?.bind takeVersion4? with
    | some after => (2, true, after)
    | none =>
      match start?.bind takeGroup? with
      | some after =>
        let (count, dotted, after) := takeGroups room false after
        (count + 1, dotted, after)
      | none => (0, false, cs)

/-- Takes an address of version 6. -/
def takeVersion6? (cs : List Char) : Option (List Char) :=
  let (count, dotted, after) := takeGroups 8 true cs
  if count = 8 then some after
  else if dotted then none
  else do
    let after ← takeChar? ':' (← takeChar? ':' after)
    some (takeGroups (7 - count) true after).2.2

/-- Whether a text is an address. -/
def isAddress (s : String) : Bool :=
  (takeVersion4? s.toList <|> takeVersion6? s.toList) == some []

end SchemaSurvey.Database.IpAddress
