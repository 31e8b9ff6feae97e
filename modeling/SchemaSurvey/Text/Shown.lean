/-
  `Shown` — strings as messages show them.

  A shown string stands in quotes. Quotes, backslashes, tabs and line ends are escaped with a
  backslash, a NUL as `\0`, and an unprintable character by its code point in hexadecimal.
-/
import SchemaSurvey.Text.Unprintable

namespace SchemaSurvey.Text

/-- A character inside a shown string. -/
def shownChar (c : Char) : List Char :=
  if c = '\x00' then ['\\', '0']
  else if c = '\t' then ['\\', 't']
  else if c = '\x0d' then ['\\', 'r']
  else if c = '\n' then ['\\', 'n']
  else if c = '"' then ['\\', '"']
  else if c = '\\' then ['\\', '\\']
  else if isUnprintable c then
    ['\\', 'u', '\x7b'] ++ Nat.toDigits 16 c.toNat ++ ['\x7d']
  else [c]

/-- A string in quotes, as messages show it. -/
def shown (s : String) : String :=
  String.ofList ('"' :: s.toList.flatMap shownChar ++ ['"'])

end SchemaSurvey.Text
