import Substitute.Number.Binary64

/-!
# The shortest decimal that reads back

A finite number is written with the fewest decimal digits that round to it again, and among those with the digits nearest to it. For a count of digits only the two neighbours of the number on that decimal grid can be nearest, so only those are tested.
-/

namespace Substitute.Binary64

/-- Twice a magnitude and the ends of the interval that rounds to it, over one denominator. -/
structure Interval where
  low : Nat
  mid : Nat
  high : Nat
  den : Nat
  closed : Bool

/-- The interval of reals that round to a magnitude. It is narrower below a power of two. -/
def interval (mantissa : Nat) (exponent : Int) : Interval :=
  let narrow := mantissa == twoTo 52 && exponent != minExponent
  let scale := if exponent < 0 then 1 else twoTo exponent.natAbs
  { low := (4 * mantissa - if narrow then 1 else 2) * scale
    mid := 4 * mantissa * scale
    high := (4 * mantissa + 2) * scale
    den := if exponent < 0 then 4 * twoTo exponent.natAbs else 4
    closed := mantissa % 2 == 0 }

/-- Whether a ratio rounds to the number the interval belongs to. -/
def Interval.holds (i : Interval) (num den : Nat) : Bool :=
  let low := i.low * den
  let high := i.high * den
  let point := num * i.den
  if i.closed then low ≤ point && point ≤ high else low < point && point < high

/-- The power of ten `p` with `10 ^ (p - 1) ≤ num / den < 10 ^ p`, searched down from `p`. -/
def decimalPoint (num den : Nat) : Nat → Int → Int
  | 0, p => p
  | fuel + 1, p =>
    let below := p - 1
    let fits := if below < 0 then den ≤ num * tenTo below.natAbs else den * tenTo below.natAbs ≤ num
    if fits then p else decimalPoint num den fuel below

/-- The nearest multiple of `10 ^ unit` that the interval holds, as a count of units. -/
def gridPoint (i : Interval) (unit : Int) : Option Nat :=
  let up := if unit < 0 then tenTo unit.natAbs else 1
  let down := if unit < 0 then 1 else tenTo unit.natAbs
  let floor := i.mid * up / (i.den * down)
  let rest := i.mid * up % (i.den * down)
  let below := i.holds (floor * down) up
  let above := i.holds ((floor + 1) * down) up
  let nearer := roundHalfEven (i.mid * up) (i.den * down)
  if below && above then some (if 2 * rest == i.den * down then floor + floor % 2 else nearer)
  else if below then some floor
  else if above then some (floor + 1)
  else none

/-- Tries the decimal grids of `count`, `count + 1`, … digits. -/
def searchDigits (i : Interval) (point : Int) : Nat → Nat → Nat × Int
  | 0, count => (0, point - count)
  | fuel + 1, count =>
    match gridPoint i (point - count) with
    | some digits => (digits, point - count)
    | none => searchDigits i point fuel (count + 1)

/-- Shortest digits of a positive magnitude and the power of ten of the last digit. -/
def shortest (mantissa : Nat) (exponent : Int) : Nat × Int :=
  let i := interval mantissa exponent
  let (num, den) := ratio mantissa exponent
  searchDigits i (decimalPoint num den 640 310) 17 1

/-- Digits without the zeros at their end, and how many of those were dropped. -/
def dropZeros (digits : Text) : Text × Nat :=
  let zeros := (digits.reverse.takeWhile (· == '0')).length
  (digits.take (digits.length - zeros), zeros)

/-- How a finite number is laid out: positional notation runs from `10 ^ -4` up to `10 ^ 16`, a whole number keeps one zero after the point, and an exponent has a sign and two digits at least. -/
def layout (digits : Text) (unit : Int) : Text :=
  let point := digits.length + unit
  if point ≤ -4 || 16 < point then
    let exponent := point - 1
    let tail := digits.drop 1
    digits.take 1 ++ (if tail.isEmpty then [] else '.' :: tail) ++
      ['e', if exponent < 0 then '-' else '+'] ++ decimalPadded 2 exponent.natAbs
  else if point ≤ 0 then "0." ++ List.replicate point.natAbs '0' ++ digits
  else if unit < 0 then digits.take point.toNat ++ '.' :: digits.drop point.toNat
  else digits ++ List.replicate unit.toNat '0' ++ ".0"

/-- A number as text that reads back as the same number. -/
def toText : Binary64 → Text
  | finite negative mantissa exponent =>
    let body : Text :=
      if mantissa = 0 then "0.0"
      else
        let (digits, unit) := shortest mantissa exponent
        let (kept, zeros) := dropZeros (decimal digits)
        layout kept (unit + zeros)
    if negative then '-' :: body else body
  | infinite negative => if negative then "-inf" else "inf"
  | nan => "nan"

end Substitute.Binary64
