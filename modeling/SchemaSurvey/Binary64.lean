/-
  `Binary64` — magnitudes of double precision numbers, and their shortest decimals.

  A magnitude is an integer of at most 53 bits times a power of two. `ofRatio?` rounds a quotient of
  naturals to the nearest magnitude, a tie going to the even neighbour; products and quotients are
  rounded from the exact result. `shortest` finds the decimal with the fewest digits that rounds
  back to a magnitude, and of those the nearest. Everything is exact arithmetic on naturals.
-/

namespace SchemaSurvey

/-- The magnitude `significand * 2 ^ exponent`. -/
structure Binary64 where
  significand : Nat
  exponent : Int
deriving DecidableEq

namespace Binary64

/-- The least significand of 53 bits, `2 ^ 52`. -/
def leastFull : Nat := 0x10000000000000

/-- The least exponent; only magnitudes of that exponent have fewer than 53 bits. -/
def minExponent : Int := -1074

/-- The greatest exponent of a finite magnitude. -/
def maxExponent : Int := 971

/-- The magnitude of both zeros. -/
def zero : Binary64 := ⟨0, minExponent⟩

/-- `2 ^ e`, as a quotient. -/
def powerOfTwo (e : Int) : Nat × Nat :=
  if 0 ≤ e then (Nat.pow 2 e.toNat, 1) else (1, Nat.pow 2 (-e).toNat)

/-- The magnitude as a quotient of naturals. -/
def ratio (x : Binary64) : Nat × Nat :=
  let (up, down) := powerOfTwo x.exponent
  (x.significand * up, down)

/-! ### Rounding -/

/-- The quotient rounded to a natural, a half going to the even neighbour. -/
def roundHalfEven (num den : Nat) : Nat :=
  let q := num / den
  let r := num % den
  if den < 2 * r || (den == 2 * r && q % 2 == 1) then q + 1 else q

/-- `num / den / 2 ^ e`, as a quotient. -/
def scaled (num den : Nat) (e : Int) : Nat × Nat :=
  let (up, down) := powerOfTwo e
  (num * down, den * up)

/-- The exponent at which `num / den` has 53 bits before the point, or the least exponent if that is
greater. -/
def exponentFor (num den : Nat) : Int :=
  let estimate := (num.log2 : Int) - den.log2 - 53
  let e := if estimate < minExponent then minExponent else estimate
  let (n, d) := scaled num den e
  if n / d < 2 * leastFull then e else e + 1

/-- The magnitude nearest to `num / den`; none if that is beyond the finite ones. -/
def ofRatio? (num den : Nat) : Option Binary64 :=
  if num = 0 then
    some zero
  else
    let e := exponentFor num den
    let (n, d) := scaled num den e
    let m := roundHalfEven n d
    let x : Binary64 := if m = 2 * leastFull then ⟨leastFull, e + 1⟩ else ⟨m, e⟩
    if x.exponent ≤ maxExponent then some x else none

/-- The rounded product. -/
def mul? (x y : Binary64) : Option Binary64 :=
  let (xn, xd) := x.ratio
  let (yn, yd) := y.ratio
  ofRatio? (xn * yn) (xd * yd)

/-- The rounded quotient. -/
def div? (x y : Binary64) : Option Binary64 :=
  let (xn, xd) := x.ratio
  let (yn, yd) := y.ratio
  ofRatio? (xn * yd) (xd * yn)

/-! ### Shortest decimals -/

/-- The decimal `digits * 10 ^ exponent`. -/
structure Decimal where
  digits : Nat
  exponent : Int
deriving DecidableEq

/-- `num / den / 10 ^ e`, as a quotient. -/
def scaledByTen (num den : Nat) (e : Int) : Nat × Nat :=
  if 0 ≤ e then (num, den * Nat.pow 10 e.toNat) else (num * Nat.pow 10 (-e).toNat, den)

/-- The exponent of the leading decimal digit of `num / den`. -/
def leadingExponent (num den : Nat) : Int :=
  let e := ((Nat.toDigits 10 num).length : Int) - (Nat.toDigits 10 den).length
  let (n, d) := scaledByTen num den e
  if n < d then e - 1 else e

/-- The quarters of a unit, as integers: four times the significand, and how far below and above it
everything still rounds to it. The gap below a power of two is half as wide. -/
def quarters (x : Binary64) : Nat × Nat × Nat :=
  let below := if x.significand = leastFull ∧ minExponent < x.exponent then 1 else 2
  (4 * x.significand, below, 2)

/-- Whether the decimal `digits * 10 ^ e` rounds to `x`. The ends of the interval belong to it when
the significand is even. -/
def isRoundedFrom (x : Binary64) (digits : Nat) (e : Int) : Bool :=
  let (middle, below, above) := x.quarters
  -- Quarters are worth `2 ^ (exponent - 2)`; the ends are `low / unit` and `high / unit` times
  -- `10 ^ e`.
  let (up, down) := powerOfTwo (x.exponent - 2)
  let (low, unit) := scaledByTen ((middle - below) * up) down e
  let (high, _) := scaledByTen ((middle + above) * up) down e
  let value := digits * unit
  if x.significand % 2 = 0 then low ≤ value && value ≤ high else low < value && value < high

/-- The decimal of `count` digits that rounds to `x` and is nearest to it, if there is one. Only the
two neighbours of `x` on the grid of that many digits can be. -/
def decimalOf? (x : Binary64) (count : Nat) : Option Decimal :=
  let (num, den) := x.ratio
  let e := leadingExponent num den + 1 - count
  let (n, d) := scaledByTen num den e
  let lower := n / d
  let upper := lower + 1
  let nearest := if 2 * (n % d) < d || (2 * (n % d) == d && lower % 2 == 0) then lower else upper
  if isRoundedFrom x nearest e then some ⟨nearest, e⟩
  else if isRoundedFrom x lower e then some ⟨lower, e⟩
  else if isRoundedFrom x upper e then some ⟨upper, e⟩
  else none

/-- Drops trailing zero digits. -/
def Decimal.normalize (d : Decimal) : Decimal :=
  let zeros := ((Nat.toDigits 10 d.digits).reverse.takeWhile (· == '0')).length
  if d.digits = 0 then d else ⟨d.digits / Nat.pow 10 zeros, d.exponent + zeros⟩

/-- The decimal with the fewest digits that rounds to `x`, and of those the nearest. Seventeen
digits always suffice. -/
def shortest (x : Binary64) : Decimal :=
  if x.significand = 0 then ⟨0, 0⟩
  else (((List.range 17).findSome? fun n => x.decimalOf? (n + 1)).getD ⟨0, 0⟩).normalize

/-! ### Text -/

/-- How decimals are written. -/
structure Style where
  /-- The exponents of the leading digit that are written positionally. -/
  positionalFrom : Int
  positionalTo : Int
  /-- The least number of digits in a written exponent. -/
  exponentWidth : Nat

/-- Pads a list of digits with zeros in front. -/
def padLeft (width : Nat) (digits : List Char) : List Char :=
  List.replicate (width - digits.length) '0' ++ digits

/-- The text of a decimal. Positional text always has a digit after the point. -/
def Decimal.text (style : Style) (d : Decimal) : List Char :=
  let digits := Nat.toDigits 10 d.digits
  let lead : Int := d.exponent + digits.length - 1
  if d.digits = 0 then ['0', '.', '0']
  else if style.positionalFrom ≤ lead && lead ≤ style.positionalTo then
    if 0 ≤ d.exponent then
      digits ++ List.replicate d.exponent.toNat '0' ++ ['.', '0']
    else if 0 ≤ lead then
      let whole := (lead + 1).toNat
      digits.take whole ++ ['.'] ++ digits.drop whole
    else
      ['0', '.'] ++ List.replicate (-lead - 1).toNat '0' ++ digits
  else
    let fraction := match digits with
      | first :: [] => [first]
      | first :: rest => first :: '.' :: rest
      | [] => []
    fraction ++ ['e', if 0 ≤ lead then '+' else '-']
      ++ padLeft style.exponentWidth (Nat.toDigits 10 lead.natAbs)

end Binary64

end SchemaSurvey
