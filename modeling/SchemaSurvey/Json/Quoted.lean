/-
  `Quoted` — strings inside a JSON text.

  `Quoted.scan` cuts a string body at its closing quote into pieces: characters that stand for
  themselves or are escaped by a single letter, and UTF-16 code units written as four hexadecimal
  digits. `Quoted.text` joins the units to characters. The pieces come in text order before the way
  the string ends, and so do their faults.
-/
import SchemaSurvey.Json.Reading

namespace SchemaSurvey.Json

/-- A part of a string body. -/
inductive Piece where
  /-- A character, plain or escaped by one letter. -/
  | char (c : Char)
  /-- A UTF-16 code unit. -/
  | unit (n : Nat)
deriving DecidableEq

/-- How a string body ends. -/
inductive Closing where
  | quote
  | endOfText
  /-- A control character, which a string must escape. -/
  | control
  /-- A backslash before a letter that escapes nothing. -/
  | badLetter
  /-- `\u` before something other than four hexadecimal digits. -/
  | badUnit
deriving DecidableEq

/-- The fault of a string that ends in a given way. -/
def Closing.check : Closing → Except Fault Unit
  | quote => .ok ()
  | endOfText => .error .endInString
  | control => .error .controlCharacter
  | badLetter | badUnit => .error .invalidEscape

/-- The body of a string. -/
structure Quoted where
  pieces : List Piece
  closing : Closing
deriving DecidableEq

namespace Quoted

/-- The value of a hexadecimal digit. -/
def hexValue? (c : Char) : Option Nat :=
  if '0' ≤ c ∧ c ≤ '9' then some (c.toNat - 48)
  else if 'a' ≤ c ∧ c ≤ 'f' then some (c.toNat - 87)
  else if 'A' ≤ c ∧ c ≤ 'F' then some (c.toNat - 55)
  else none

/-- The code unit written as four hexadecimal digits. -/
def codeUnit? (a b c d : Char) : Option Nat := do
  some ((((← hexValue? a) * 16 + (← hexValue? b)) * 16 + (← hexValue? c)) * 16 + (← hexValue? d))

/-- The character that a single letter escapes. -/
def escapedBy? (c : Char) : Option Char :=
  if c = '"' then some '"'
  else if c = '\\' then some '\\'
  else if c = '/' then some '/'
  else if c = 'b' then some '\x08'
  else if c = 'f' then some '\x0c'
  else if c = 'n' then some '\n'
  else if c = 'r' then some '\x0d'
  else if c = 't' then some '\t'
  else none

/-- How a string ends whose last escape lacks digits: a text with fewer than four bytes left ends
inside the escape. -/
def closingWithin (rest : List Char) : Closing :=
  if (String.ofList rest).utf8ByteSize < 4 then .endOfText else .badUnit

/-- Puts a piece in front. -/
def cons (p : Piece) (q : Quoted × List Char) : Quoted × List Char :=
  (⟨p :: q.1.pieces, q.1.closing⟩, q.2)

/-- Cuts off a string body, up to and including its closing quote. Nothing is left after a body that
does not end well. -/
def scan : List Char → Quoted × List Char
  | [] => (⟨[], .endOfText⟩, [])
  | c :: cs =>
    if c = '"' then (⟨[], .quote⟩, cs)
    else if c = '\\' then
      match cs with
      | [] => (⟨[], .endOfText⟩, [])
      | e :: es =>
        if e = 'u' then
          match es with
          | x :: y :: z :: w :: rest =>
            match codeUnit? x y z w with
            | some n => cons (.unit n) (scan rest)
            | none => (⟨[], .badUnit⟩, [])
          | short => (⟨[], closingWithin short⟩, [])
        else
          match escapedBy? e with
          | some a => cons (.char a) (scan es)
          | none => (⟨[], .badLetter⟩, [])
    else if c.toNat < 32 then (⟨[], .control⟩, [])
    else cons (.char c) (scan cs)

theorem length_scan_le (s : List Char) : (scan s).2.length ≤ s.length := by
  fun_induction scan s <;> simp_all [cons] <;> omega

/-! ### Joining code units -/

/-- Whether a code unit is the first half of a pair. -/
def isHigh (n : Nat) : Bool := 0xd800 ≤ n && n < 0xdc00

/-- Whether a code unit is the second half of a pair. -/
def isLow (n : Nat) : Bool := 0xdc00 ≤ n && n < 0xe000

/-- The character of a surrogate pair. -/
def joined (high low : Nat) : Char :=
  Char.ofNat (0x10000 + (high - 0xd800) * 0x400 + (low - 0xdc00))

/-- The fault of a string that ends, in a given way, right after the first half of a pair. -/
def faultAfterHigh : Closing → Fault
  | .endOfText => .endInString
  | .badUnit => .invalidEscape
  | _ => .unfinishedSurrogate

/-- Joins the pieces to characters. -/
def join (closing : Closing) : List Piece → Except Fault (List Char)
  | [] => closing.check.map fun _ => []
  | .char c :: ps => (join closing ps).map (c :: ·)
  | .unit n :: ps =>
    if isLow n then .error .loneSurrogate
    else if isHigh n then
      match ps with
      | .unit m :: rest =>
        if isLow m then (join closing rest).map (joined n m :: ·) else .error .loneSurrogate
      | .char _ :: _ => .error .unfinishedSurrogate
      | [] => .error (faultAfterHigh closing)
    else (join closing ps).map (Char.ofNat n :: ·)

/-- The string that a body stands for. -/
def text (q : Quoted) : Except Fault String := (join q.closing q.pieces).map String.ofList

/-- The two readings of a string. -/
def reading (q : Quoted) : Reading String := ⟨q.text, q.closing.check⟩

end Quoted

end SchemaSurvey.Json
