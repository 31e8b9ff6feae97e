/-
  `Numeral` — numbers inside a JSON text.

  `Numeral.scan` cuts off a number: a sign, digits without a needless zero in front, a fraction and
  an exponent. `Numeral.number` gives it a value. A number without fraction and exponent that fits
  into 64 bits is an integer; everything else is a double, got from the leading digits that fit into
  64 bits by one scaling with a power of ten, so its last place may differ from the nearest double.
-/
import SchemaSurvey.Json.Reading

namespace SchemaSurvey.Json

/-- The parts of a well-formed number. -/
structure Numeral where
  negative : Bool
  /-- The digits before the point. -/
  whole : List Char
  /-- The digits after the point; none if there is no point. -/
  fraction : List Char
  /-- The sign and the digits of the exponent. -/
  exponent? : Option (Bool × List Char)
deriving DecidableEq

namespace Numeral

/-! ### Value -/

/-- The value of a decimal digit. -/
def digitValue (c : Char) : Nat := c.toNat - 48

/-- The value of a string of decimal digits. -/
def digitsValue (digits : List Char) : Nat := digits.foldl (fun n c => n * 10 + digitValue c) 0

/-- Appends digits to a significand as long as it stays below `2 ^ 64`, and counts them. -/
def absorb (significand : Nat) : List Char → Nat × Nat
  | [] => (significand, 0)
  | c :: cs =>
    let next := significand * 10 + digitValue c
    if next < 0x10000000000000000 then
      let (s, n) := absorb next cs
      (s, n + 1)
    else
      (significand, 0)

/-- The greatest power of ten that one scaling uses. -/
def maxScale : Nat := 308

/-- Divides by a power of ten, in two steps when it is beyond the greatest one. A third step would
leave nothing of a 64-bit significand. -/
def shrink (x : Binary64) (power : Nat) : Option Binary64 :=
  if power ≤ maxScale then do x.div? (← Binary64.ofRatio? (Nat.pow 10 power) 1)
  else if power ≤ 2 * maxScale then do
    let once ← x.div? (← Binary64.ofRatio? (Nat.pow 10 maxScale) 1)
    once.div? (← Binary64.ofRatio? (Nat.pow 10 (power - maxScale)) 1)
  else
    some .zero

/-- The double for a significand and a decimal exponent; none if it is out of range. -/
def magnitude? (significand : Nat) (exponent : Int) : Option Binary64 := do
  let x ← Binary64.ofRatio? significand 1
  if exponent < 0 then shrink x (-exponent).toNat
  else if exponent ≤ maxScale then x.mul? (← Binary64.ofRatio? (Nat.pow 10 exponent.toNat) 1)
  else if significand = 0 then some .zero
  else none

/-- The double that a number stands for. -/
def floating (n : Numeral) : Except Fault Number :=
  let (s, absorbed) := absorb 0 n.whole
  let beyond := n.whole.length - absorbed
  let (s, places) := absorb s n.fraction
  let written : Int := match n.exponent? with
    | some (negative, digits) => if negative then -digitsValue digits else digitsValue digits
    | none => 0
  match magnitude? s (beyond - places + written) with
  | some x => .ok (.floating n.negative x)
  | none => .error .numberOutOfRange

/-- The value of a number. A negative zero is a double. -/
def number (n : Numeral) : Except Fault Number :=
  let value := digitsValue n.whole
  if n.fraction.isEmpty && n.exponent?.isNone then
    if n.negative then
      if 0 < value && value ≤ 0x8000000000000000 then .ok (.integer (-value)) else n.floating
    else if value < 0x10000000000000000 then .ok (.integer value)
    else n.floating
  else
    n.floating

/-! ### Scanning -/

/-- Where a number breaks off. A reader that keeps it tells the end of the text from a character
that does not belong; one that skips it does not. -/
def broken (rest : List Char) : Reading Number where
  kept := .error (if rest.isEmpty then .endInValue else .invalidNumber)
  skipped := .error .invalidNumber

/-- The digits a text starts with, and what follows them. -/
def digits (s : List Char) : List Char × List Char :=
  (s.takeWhile Char.isDigit, s.dropWhile Char.isDigit)

/-- A well-formed number, or how it breaks off, and what follows it. Nothing is left after a number
that breaks off. -/
abbrev Scan := Except (Reading Number) Numeral × List Char

/-- The text after a sign, if it starts with one. -/
def dropSign (s : List Char) : List Char :=
  if s.head? == some '-' || s.head? == some '+' then s.tail else s

/-- Scans the exponent of a number whose mantissa has been scanned. -/
def scanExponent (n : Numeral) : List Char → Scan
  | [] => (.ok n, [])
  | e :: s =>
    if e = 'e' ∨ e = 'E' then
      let (ds, rest) := digits (dropSign s)
      if ds.isEmpty then (.error (broken rest), [])
      else (.ok { n with exponent? := some (s.head? == some '-', ds) }, rest)
    else
      (.ok n, e :: s)

/-- Scans the fraction and the exponent of a number whose digits before the point have been
scanned. -/
def scanFraction (n : Numeral) : List Char → Scan
  | [] => (.ok n, [])
  | c :: s =>
    if c = '.' then
      let (ds, rest) := digits s
      if ds.isEmpty then (.error (broken rest), [])
      else scanExponent { n with fraction := ds } rest
    else
      scanExponent n (c :: s)

/-- Scans a number without its sign. A leading zero has no digit after it. -/
def scanUnsigned (negative : Bool) (s : List Char) : Scan :=
  let (ds, rest) := digits s
  if ds.isEmpty then (.error (broken rest), [])
  else if ds.head? == some '0' && ds.length != 1 then
    (.error ⟨.error .invalidNumber, .error .invalidNumber⟩, [])
  else scanFraction { negative, whole := ds, fraction := [], exponent? := none } rest

/-- Scans the number that a text starts with. -/
def scan (s : List Char) : Scan :=
  if s.head? == some '-' then scanUnsigned true s.tail else scanUnsigned false s

/-- The two readings of a scanned number. -/
def reading : Except (Reading Number) Numeral → Reading Number
  | .ok n => ⟨n.number, .ok ()⟩
  | .error r => r

/-! ### Length -/

theorem length_digits_snd_le (s : List Char) : (digits s).2.length ≤ s.length :=
  (List.dropWhile_sublist _).length_le

theorem length_dropSign_le (s : List Char) : (dropSign s).length ≤ s.length := by
  unfold dropSign
  split <;> simp

theorem length_scanExponent_le (n : Numeral) (s : List Char) :
    (scanExponent n s).2.length ≤ s.length := by
  cases s with
  | nil => simp [scanExponent]
  | cons e s =>
    rw [scanExponent]
    by_cases he : e = 'e' ∨ e = 'E'
    · rw [if_pos he]
      dsimp only
      split
      · simp
      · exact Nat.le_succ_of_le (Nat.le_trans (length_digits_snd_le _) (length_dropSign_le s))
    · simp [if_neg he]

theorem length_scanFraction_le (n : Numeral) (s : List Char) :
    (scanFraction n s).2.length ≤ s.length := by
  cases s with
  | nil => simp [scanFraction]
  | cons c s =>
    rw [scanFraction]
    by_cases hc : c = '.'
    · rw [if_pos hc]
      dsimp only
      split
      · simp
      · exact Nat.le_succ_of_le
          (Nat.le_trans (length_scanExponent_le _ _) (length_digits_snd_le s))
    · rw [if_neg hc]
      exact length_scanExponent_le n (c :: s)

theorem length_scanUnsigned_lt (negative : Bool) {s : List Char} (h : s ≠ []) :
    (scanUnsigned negative s).2.length < s.length := by
  have pos : 0 < s.length := List.length_pos_iff.2 h
  unfold scanUnsigned
  simp only
  split
  · exact pos
  · split
    · exact pos
    · rename_i hds _
      refine Nat.lt_of_le_of_lt (length_scanFraction_le _ _) ?_
      have total : (digits s).1.length + (digits s).2.length = s.length := by
        rw [← List.length_append]
        exact congrArg List.length List.takeWhile_append_dropWhile
      have : 0 < (digits s).1.length := List.length_pos_iff.2 (by simpa using hds)
      omega

theorem length_scan_lt {s : List Char} (h : s ≠ []) : (scan s).2.length < s.length := by
  have pos : 0 < s.length := List.length_pos_iff.2 h
  unfold scan
  split
  · by_cases ht : s.tail = []
    · rw [ht]
      exact Nat.lt_of_le_of_lt (Nat.le_of_eq rfl) pos
    · have := length_scanUnsigned_lt true ht
      rw [List.length_tail] at this
      omega
  · exact length_scanUnsigned_lt false h

end Numeral

end SchemaSurvey.Json
