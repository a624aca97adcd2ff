import Substitute.Yaml.Tag
import Substitute.Number.Reading
import Substitute.Value.Shown

/-!
# Values of scalars

What a scalar stands for under its tag. A text that fits the pattern of its tag may still stand for nothing: digits can be missing, and a date can lie outside the calendar.
-/

namespace Substitute.Yaml

def integerIn (base : Nat) (t : Text) : Except Fault Int :=
  let count := (t.filter fun c => (decimalDigit? c).isSome).length
  if base == 10 && maxDigits < count && (readInt? 10 t).isSome then .error (.tooManyDigits count)
  else match readInt? base t with
    | some n => .ok n
    | none => .error (.integer base t)

def sexagesimal (parts : List Int) : Int :=
  parts.foldl (fun n part => n * 60 + part) 0

/-- Splits off the sign of a number; a number has at least one character. -/
def signedBody (t : Text) : Except Fault (Bool × Text) :=
  match t with
  | [] => .error .emptyNumber
  | _ => .ok (splitSign t)

def integerValue (t : Text) : Except Fault Int := do
  let (negative, body) ← signedBody (t.filter (· != '_'))
  let sign : Int := if negative then -1 else 1
  match body with
  | ['0'] => return 0
  | '0' :: 'b' :: digits => return sign * (← integerIn 2 digits)
  | '0' :: 'x' :: digits => return sign * (← integerIn 16 digits)
  | '0' :: _ => return sign * (← integerIn 8 body)
  | [] => throw .emptyNumber
  | _ =>
    if body.contains ':' then
      return sign * sexagesimal (← (Text.cutAt ':' body).mapM (integerIn 10))
    else return sign * (← integerIn 10 body)

def decimalIn (t : Text) : Except Fault Binary64 :=
  match Binary64.read? t with
  | some x => .ok x
  | none => .error (.decimal t)

/-- The value of a decimal's parts in base sixty, the last part first. -/
def sexagesimalDecimal (parts : List Binary64) : Binary64 :=
  (parts.foldl (fun (sum, base) part =>
    (sum.add (part.mul (Binary64.ofInt base)), base * 60)) (Binary64.ofInt 0, (1 : Int))).1

/-- Whether the first of so many parts in base sixty stands at a place that is no binary64 number. -/
def placeOverflows (count : Nat) : Bool :=
  match Binary64.ofInt (Nat.pow 60 (count - 1)) with
  | .infinite _ => true
  | _ => false

def decimalValue (t : Text) : Except Fault Binary64 := do
  let (negative, body) ← signedBody (lowercase (t.filter (· != '_')))
  let signed := fun (x : Binary64) => if negative then x.neg else x
  if body == ".inf".toList then return signed (.infinite false)
  else if body == ".nan".toList then return .nan
  else if body.contains ':' then
    let parts ← (Text.cutAt ':' body).mapM decimalIn
    if placeOverflows parts.length then throw .overflow
    else return signed (sexagesimalDecimal parts.reverse)
  else return signed (← decimalIn body)

def digitsNat (digits : Text) : Nat :=
  digits.foldl (fun n c => n * 10 + (c.toNat - 0x30)) 0

def calendarDate (year month day : Nat) : Except Fault Date :=
  if year = 0 then .error (.calendar "year 0 is out of range")
  else if month = 0 || 12 < month then .error (.calendar "month must be in 1..12")
  else if day = 0 || Date.daysIn year month < day then
    .error (.calendar "day is out of range for month")
  else .ok { year, month, day }

/-- The offset of a zone in minutes, if it is less than a day. -/
def zoneOffset : Option (Option (Bool × Text × Text)) → Except Fault (Option Int)
  | none => .ok none
  | some none => .ok (some 0)
  | some (some (negative, hours, minutes)) =>
    let size : Int := digitsNat hours * 60 + digitsNat minutes
    let offset := if negative then -size else size
    if size < 1440 then .ok (some offset)
    else .error (.calendar
      ("offset must be a timedelta strictly between -timedelta(hours=24) and timedelta(hours=24), not "
        ++ Moment.spanQuoted offset ++ "."))

def timeValue (t : Text) : Except Fault Value := do
  let t := if t.getLast? == some '\n' then t.dropLast else t
  match Tag.writtenTime? t with
  | none => throw .timestamp
  | some w =>
    let (year, month, day) := (digitsNat w.year, digitsNat w.month, digitsNat w.day)
    match w.clock with
    | none => return .date (← calendarDate year month day)
    | some (hour, minute, second, fraction) =>
      let offset ← zoneOffset w.zone
      let date ← calendarDate year month day
      let (hour, minute, second) := (digitsNat hour, digitsNat minute, digitsNat second)
      if 23 < hour then throw (.calendar "hour must be in 0..23")
      if 59 < minute then throw (.calendar "minute must be in 0..59")
      if 59 < second then throw (.calendar "second must be in 0..59")
      let microsecond := digitsNat ((fraction ++ List.replicate 6 '0').take 6)
      return .moment { date, hour, minute, second, microsecond, offset }

def base64Digit? (c : Char) : Option Nat :=
  if c.isUpper then some (c.toNat - 0x41)
  else if c.isLower then some (c.toNat - 0x61 + 26)
  else if c.isDigit then some (c.toNat - 0x30 + 52)
  else if c == '+' then some 62
  else if c == '/' then some 63
  else none

/-- Decodes base sixty-four: `held` are the digits of a group so far, and `pads` how many padding signs followed. Padding that completes a group ends the text; other characters are passed over. -/
def decodeBase64? (held : List Nat) (pads : Nat) : Text → Option (List Nat)
  | [] => if held.isEmpty then some [] else none
  | '=' :: rest =>
    if 2 ≤ held.length && 4 ≤ held.length + pads + 1 then some (bytesOf held)
    else decodeBase64? held (if 2 ≤ held.length then pads + 1 else pads) rest
  | c :: rest =>
    match base64Digit? c with
    | none => decodeBase64? held pads rest
    | some d =>
      if held.length = 3 then (decodeBase64? [] 0 rest).map (bytesOf (held ++ [d]) ++ ·)
      else decodeBase64? (held ++ [d]) 0 rest
where
  /-- The whole bytes in a group of digits. -/
  bytesOf : List Nat → List Nat
    | [a, b] => [a * 4 + b / 16]
    | [a, b, c] => [a * 4 + b / 16, b % 16 * 16 + c / 4]
    | [a, b, c, d] => [a * 4 + b / 16, b % 16 * 16 + c / 4, c % 4 * 64 + d]
    | _ => []

def scalarValue (tag : Tag) (t : Text) : Except Fault Value :=
  match tag with
  | .null => .ok .null
  | .bool =>
    let word := lowercase t
    if ["yes".toList, "true".toList, "on".toList].contains word then .ok (.bool true)
    else if ["no".toList, "false".toList, "off".toList].contains word then .ok (.bool false)
    else .error (.boolean word)
  | .int => (integerValue t).map .int
  | .float => (decimalValue t).map .float
  | .text => .ok (.text t)
  | .binary =>
    match (if t.all (·.toNat < 0x80) then decodeBase64? [] 0 t else none) with
    | some bytes => .ok (.bytes bytes)
    | none => .error .malformed
  | .timestamp => timeValue t
  | _ => .error .malformed

end Substitute.Yaml
