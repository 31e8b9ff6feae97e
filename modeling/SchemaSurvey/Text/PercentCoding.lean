/-
  `PercentCoding` — text with bytes written as `%` and two hexadecimal digits.

  A `%` that no two digits follow stands for itself.
-/

namespace SchemaSurvey.Text

/-- The value of a hexadecimal digit. -/
def hexDigit? (b : UInt8) : Option UInt8 :=
  if 0x30 ≤ b && b ≤ 0x39 then some (b - 0x30)
  else if 0x41 ≤ b && b ≤ 0x46 then some (b - 0x41 + 10)
  else if 0x61 ≤ b && b ≤ 0x66 then some (b - 0x61 + 10)
  else none

/-- The byte that two hexadecimal digits stand for. -/
def hexByte? (high low : UInt8) : Option UInt8 := do
  some ((← hexDigit? high) * 16 + (← hexDigit? low))

/-- The byte written at the front, if it is written as a `%` and two digits. -/
def escapedByte? : List UInt8 → Option UInt8
  | 0x25 :: high :: low :: _ => hexByte? high low
  | _ => none

/-- The bytes that are written. -/
def percentDecodeBytes : List UInt8 → List UInt8
  | [] => []
  | b :: rest =>
    match escapedByte? (b :: rest) with
    | some byte => byte :: percentDecodeBytes (rest.drop 2)
    | none => b :: percentDecodeBytes rest
termination_by bs => bs.length
decreasing_by all_goals simp only [List.length_drop, List.length_cons]; omega

/-- The text that is written, if it is a text. -/
def percentDecode? (s : String) : Option String :=
  String.fromUTF8? ⟨(percentDecodeBytes s.toUTF8.toList).toArray⟩

end SchemaSurvey.Text
