import Substitute.Number.Rounding
import Substitute.Text.Basic

/-!
# Binary64 numbers

A finite number is a sign and a magnitude `mantissa * 2 ^ exponent`, held in lowest canonical form, so equal magnitudes have equal fields. Everything is exact arithmetic on natural numbers: rounding a ratio, comparing with an integer, and finding the shortest decimal digits that read back.
-/

namespace Substitute

inductive Binary64 where
  | finite (negative : Bool) (mantissa : Nat) (exponent : Int)
  | infinite (negative : Bool)
  | nan
deriving DecidableEq, Repr

namespace Binary64

def minExponent : Int := -1074

def maxExponent : Int := 971

/-- The ratio `num / den` in units of `2 ^ exponent`, as a ratio again. -/
def inUnits (num den : Nat) (exponent : Int) : Nat × Nat :=
  if exponent < 0 then (num * twoTo exponent.natAbs, den) else (num, den * twoTo exponent.natAbs)

/-- The exponent at which a positive ratio has a mantissa of 53 bits, or the least one. -/
def exponentFor (num den : Nat) : Int :=
  let guess : Int := (num.log2 : Int) - den.log2 - 52
  let units := inUnits num den guess
  max minExponent (if units.1 < twoTo 52 * units.2 then guess - 1 else guess)

/-- The number nearest to a ratio of natural numbers, under the given sign. -/
def ofRatio (negative : Bool) (num den : Nat) : Binary64 :=
  if num = 0 then finite negative 0 minExponent
  else
    let exponent := exponentFor num den
    let units := inUnits num den exponent
    let mantissa := roundHalfEven units.1 units.2
    let (mantissa, exponent) :=
      if mantissa = twoTo 53 then (twoTo 52, exponent + 1) else (mantissa, exponent)
    if maxExponent < exponent then infinite negative else finite negative mantissa exponent

def ofInt (n : Int) : Binary64 :=
  ofRatio (n < 0) n.natAbs 1

/-- The number nearest to `digits * 10 ^ exponent`. Exponents far outside the range are cut short. -/
def ofDecimal (negative : Bool) (digits : Nat) (exponent : Int) : Binary64 :=
  let magnitude : Int := exponent + (decimal digits).length
  if digits = 0 || magnitude < -400 then finite negative 0 minExponent
  else if 400 < magnitude then infinite negative
  else if exponent < 0 then ofRatio negative digits (tenTo exponent.natAbs)
  else ofRatio negative (digits * tenTo exponent.natAbs) 1

def ratio (mantissa : Nat) (exponent : Int) : Nat × Nat :=
  if exponent < 0 then (mantissa, twoTo exponent.natAbs) else (mantissa * twoTo exponent.natAbs, 1)

def neg : Binary64 → Binary64
  | finite negative mantissa exponent => finite (!negative) mantissa exponent
  | infinite negative => infinite (!negative)
  | nan => nan

def isZero : Binary64 → Bool
  | finite _ mantissa _ => mantissa == 0
  | _ => false

/-- Whether the number is zero or below; not a number is neither. -/
def isNonPositive : Binary64 → Bool
  | finite negative mantissa _ => negative || mantissa == 0
  | infinite negative => negative
  | nan => false

/-- Whether two numbers are equal as numbers: the zeros are equal, and nothing equals not a number. -/
def numEq : Binary64 → Binary64 → Bool
  | finite n m e, finite n' m' e' => m == m' && (m == 0 || (n == n' && e == e'))
  | infinite n, infinite n' => n == n'
  | _, _ => false

def eqInt (x : Binary64) (n : Int) : Bool :=
  match x with
  | finite negative mantissa exponent =>
    let (num, den) := ratio mantissa exponent
    num == n.natAbs * den && (n == 0 || negative == decide (n < 0))
  | _ => false

/-- The signed numerator of a finite number over `2 ^ 1074`. -/
def scaled (negative : Bool) (mantissa : Nat) (exponent : Int) : Int :=
  let magnitude : Nat := mantissa * twoTo (exponent - minExponent).toNat
  if negative then -magnitude else magnitude

def add : Binary64 → Binary64 → Binary64
  | nan, _ => nan
  | _, nan => nan
  | infinite n, infinite n' => if n == n' then infinite n else nan
  | infinite n, _ => infinite n
  | _, infinite n => infinite n
  | finite n m e, finite n' m' e' =>
    let sum := scaled n m e + scaled n' m' e'
    if sum = 0 then finite (n && n') 0 minExponent
    else ofRatio (sum < 0) sum.natAbs (twoTo 1074)

def mul : Binary64 → Binary64 → Binary64
  | nan, _ => nan
  | _, nan => nan
  | infinite n, infinite n' => infinite (n != n')
  | infinite n, finite n' m _ => if m = 0 then nan else infinite (n != n')
  | finite n m _, infinite n' => if m = 0 then nan else infinite (n != n')
  | finite n m e, finite n' m' e' =>
    let (num, den) := ratio m e
    let (num', den') := ratio m' e'
    ofRatio (n != n') (num * num') (den * den')

end Binary64

end Substitute
