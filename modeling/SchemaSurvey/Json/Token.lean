/-
  `Token` — a JSON text as a list of tokens.

  `Token.all` reads a text once, left to right. It never fails: what is malformed becomes a token
  that carries its fault, and since no reader gets past such a token, it is the last one. White
  space is space, tab, line feed and carriage return.
-/
import SchemaSurvey.Json.Numeral
import SchemaSurvey.Json.Quoted

namespace SchemaSurvey.Json

/-- A value without parts. -/
inductive Scalar where
  | null
  | bool (b : Bool)
  /-- A word that starts like `null`, `true` or `false` and goes on otherwise. -/
  | misspelt (fault : Fault)
  | number (n : Reading Number)
  | string (s : Reading String)

/-- What stands at one position of a text. -/
inductive Token where
  | openArray
  | closeArray
  | openObject
  | closeObject
  | comma
  | colon
  | scalar (s : Scalar)
  /-- A character that starts no token. -/
  | stray

namespace Token

/-- The characters that may stand between tokens. -/
def isBlank (c : Char) : Bool := c == ' ' || c == '\t' || c == '\n' || c == '\x0d'

/-- Reads the remaining letters of a word. -/
def word (value : Scalar) : List Char → List Char → Scalar × List Char
  | [], s => (value, s)
  | _ :: _, [] => (.misspelt .endInValue, [])
  | w :: ws, c :: s => if c = w then word value ws s else (.misspelt .expectedIdent, [])

/-- The token of a punctuation character. -/
def punctuation? (c : Char) : Option Token :=
  if c = '[' then some openArray
  else if c = ']' then some closeArray
  else if c = '\x7b' then some openObject
  else if c = '\x7d' then some closeObject
  else if c = ',' then some comma
  else if c = ':' then some colon
  else none

/-- The scalar that a text starts with, if it starts with one, and what follows it. -/
def scalar? (c : Char) (s : List Char) : Option (Scalar × List Char) :=
  if c = '"' then some (.string (Quoted.scan s).1.reading, (Quoted.scan s).2)
  else if c = 'n' then some (word .null ['u', 'l', 'l'] s)
  else if c = 't' then some (word (.bool true) ['r', 'u', 'e'] s)
  else if c = 'f' then some (word (.bool false) ['a', 'l', 's', 'e'] s)
  else if c = '-' ∨ c.isDigit then
    some (.number (Numeral.reading (Numeral.scan (c :: s)).1), (Numeral.scan (c :: s)).2)
  else none

/-- The token that a text without leading blanks starts with, and what follows it. -/
def first (c : Char) (s : List Char) : Token × List Char :=
  match punctuation? c with
  | some t => (t, s)
  | none =>
    match scalar? c s with
    | some (v, rest) => (.scalar v, rest)
    | none => (.stray, [])

theorem length_word_le (v : Scalar) (w s : List Char) : (word v w s).2.length ≤ s.length := by
  induction w generalizing s with
  | nil => simp [word]
  | cons w ws ih =>
    cases s with
    | nil => simp [word]
    | cons c s =>
      rw [word]
      split
      · exact Nat.le_succ_of_le (ih s)
      · simp

theorem length_of_word_eq {v v' : Scalar} {w s rest : List Char}
    (h : some (word v w s) = some (v', rest)) : rest.length ≤ s.length := by
  have := length_word_le v w s
  rw [Option.some.inj h] at this
  exact this

theorem length_of_scalar?_eq_some {c : Char} {s rest : List Char} {v : Scalar}
    (h : scalar? c s = some (v, rest)) : rest.length ≤ s.length := by
  unfold scalar? at h
  split at h
  · obtain ⟨-, rfl⟩ := Prod.mk.inj (Option.some.inj h)
    exact Quoted.length_scan_le s
  split at h
  · exact length_of_word_eq h
  split at h
  · exact length_of_word_eq h
  split at h
  · exact length_of_word_eq h
  split at h
  · obtain ⟨-, rfl⟩ := Prod.mk.inj (Option.some.inj h)
    exact Nat.le_of_lt_succ (Numeral.length_scan_lt (List.cons_ne_nil c s))
  · exact absurd h (by simp)

theorem length_first_le (c : Char) (s : List Char) : (first c s).2.length ≤ s.length := by
  unfold first
  split
  · exact Nat.le_refl _
  split
  · rename_i h
    exact length_of_scalar?_eq_some h
  · exact Nat.zero_le _

/-- The tokens of a text. -/
def all (s : List Char) : List Token :=
  match _h : s.dropWhile isBlank with
  | [] => []
  | c :: cs => (first c cs).1 :: all (first c cs).2
termination_by s.length
decreasing_by
  have : (s.dropWhile isBlank).length ≤ s.length := (List.dropWhile_sublist _).length_le
  rw [_h] at this
  exact Nat.lt_of_le_of_lt (length_first_le c cs) this

end Token

/-! ### What was found -/

/-- The value that a scalar is found to be. -/
def Scalar.found : Scalar → Except Fault Found
  | null => .ok .null
  | bool b => .ok (.bool b)
  | misspelt fault => .error fault
  | number n => n.kept.map .number
  | string s => s.kept.map .string

/-- The value that a token is found to start. -/
def Token.found : Token → Except Fault Found
  | scalar s => s.found
  | openArray => .ok .array
  | openObject => .ok .object
  | _ => .error .expectedValue

end SchemaSurvey.Json
