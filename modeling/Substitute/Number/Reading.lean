import Substitute.Number.Binary64
import Substitute.Text.Case
import Substitute.Text.Quoted

/-!
# Reading numbers

Numbers as a person may type them: blanks around, a sign, single underscores between digits, decimal digits of any script, and for binary64 a point, an exponent or the name of infinity.
-/

namespace Substitute

/-- The zeros of the decimal digits outside ASCII; nine more digits follow each. -/
def digitZeros : List Nat :=
  [0x660, 0x6F0, 0x7C0, 0x966, 0x9E6, 0xA66, 0xAE6, 0xB66, 0xBE6, 0xC66, 0xCE6, 0xD66, 0xDE6,
   0xE50, 0xED0, 0xF20, 0x1040, 0x1090, 0x17E0, 0x1810, 0x1946, 0x19D0, 0x1A80, 0x1A90, 0x1B50,
   0x1BB0, 0x1C40, 0x1C50, 0xA620, 0xA8D0, 0xA900, 0xA9D0, 0xA9F0, 0xAA50, 0xABF0, 0xFF10,
   0x104A0, 0x10D30, 0x11066, 0x110F0, 0x11136, 0x111D0, 0x112F0, 0x11450, 0x114D0, 0x11650,
   0x116C0, 0x11730, 0x118E0, 0x11950, 0x11C50, 0x11D50, 0x11DA0, 0x16A60, 0x16AC0, 0x16B50,
   0x1D7CE, 0x1D7D8, 0x1D7E2, 0x1D7EC, 0x1D7F6, 0x1E140, 0x1E2F0, 0x1E950, 0x1FBF0]

def decimalDigit? (c : Char) : Option Nat :=
  if c.toNat < 0x80 then if c.isDigit then some (c.toNat - 0x30) else none
  else (digitZeros.find? fun first => first ≤ c.toNat && c.toNat < first + 10).map (c.toNat - ·)

/-- The value of a digit or an ASCII letter, letters counting on from ten. -/
def digitValue? (c : Char) : Option Nat :=
  if c.isLower then some (c.toNat - 0x61 + 10)
  else if c.isUpper then some (c.toNat - 0x41 + 10)
  else decimalDigit? c

/-- The value of digits in the given base, single underscores allowed between them. -/
def digitsValue? (base : Nat) : Nat → Text → Option Nat
  | value, [] => some value
  | value, '_' :: c :: rest => do
    let d ← digitValue? c
    if d < base then digitsValue? base (value * base + d) rest else none
  | value, c :: rest => do
    let d ← digitValue? c
    if d < base then digitsValue? base (value * base + d) rest else none

/-- Splits off a sign; true stands for minus. -/
def splitSign : Text → Bool × Text
  | '-' :: rest => (true, rest)
  | '+' :: rest => (false, rest)
  | t => (false, t)

/-- Splits off the letters that may announce the given base. -/
def dropBaseMark (base : Nat) : Text → Text
  | '0' :: c :: rest =>
    let marked := (base == 2 && (c == 'b' || c == 'B')) || (base == 8 && (c == 'o' || c == 'O')) ||
      (base == 16 && (c == 'x' || c == 'X'))
    if marked then (match rest with | '_' :: digits => digits | _ => rest) else '0' :: c :: rest
  | t => t

/-- The text without the blanks around a number. The separator characters are blanks that may not stand there. -/
def trimNumber (t : Text) : Text :=
  let isOuter := fun c => isBlank c && !('\x1c' ≤ c && c ≤ '\x1f')
  ((t.dropWhile isOuter).reverse.dropWhile isOuter).reverse

def readInt? (base : Nat) (t : Text) : Option Int :=
  let (negative, body) := splitSign (trimNumber t)
  match dropBaseMark base body with
  | [] => none
  | '_' :: _ => none
  | digits => (digitsValue? base 0 digits).map fun n => if negative then -(n : Int) else n

namespace Binary64

/-- Digits with underscores between them, at least one: the digits alone and the rest. -/
def takeDigits : Text → Text × Text
  | [] => ([], [])
  | [c] => if (decimalDigit? c).isSome then ([c], []) else ([], [c])
  | c :: d :: rest =>
    if (decimalDigit? c).isSome then
      if d == '_' then
        match rest with
        | e :: _ =>
          if (decimalDigit? e).isSome then
            let (digits, remaining) := takeDigits rest
            (c :: digits, remaining)
          else ([c], d :: rest)
        | [] => ([c], d :: rest)
      else
        let (digits, remaining) := takeDigits (d :: rest)
        (c :: digits, remaining)
    else ([], c :: d :: rest)

def digitsNat (digits : Text) : Nat :=
  digits.foldl (fun n c => n * 10 + (decimalDigit? c).getD 0) 0

/-- Reads the exponent after a mantissa; nothing may follow it. -/
def readExponent? : Text → Option Int
  | [] => some 0
  | c :: rest =>
    if c == 'e' || c == 'E' then
      let (negative, body) := splitSign rest
      let (digits, remaining) := takeDigits body
      if digits.isEmpty || !remaining.isEmpty then none
      else some (if negative then -(digitsNat digits : Int) else digitsNat digits)
    else none

def readMagnitude? (negative : Bool) (t : Text) : Option Binary64 :=
  let name := lowercase t
  if name == "inf".toList || name == "infinity".toList then some (infinite negative)
  else if name == "nan".toList then some nan
  else
    let (whole, afterWhole) := takeDigits t
    let (part, afterPart) := match afterWhole with
      | '.' :: rest => takeDigits rest
      | rest => ([], rest)
    if whole.isEmpty && part.isEmpty then none
    else (readExponent? afterPart).map fun exponent =>
      ofDecimal negative (digitsNat (whole ++ part)) (exponent - part.length)

def read? (t : Text) : Option Binary64 :=
  let (negative, body) := splitSign (trimNumber t)
  readMagnitude? negative body

end Binary64

end Substitute
