import Substitute.Yaml.Cursor

/-!
# Tags

A tag says what a node stands for. A plain scalar without a tag gets the one whose pattern its text fits, else it is a text.
-/

namespace Substitute.Yaml

inductive Tag where
  | null
  | bool
  | int
  | float
  | text
  | binary
  | timestamp
  | seq
  | map
  | set
  | omap
  | pairs
  | merge
  | value
  | other
deriving DecidableEq, Repr

namespace Tag

/-- The prefix of the tags that every YAML text may use. -/
def commonPrefix : Text := "tag:yaml.org,2002:"

/-- The tags that have a meaning here, by the end of their names. -/
def named : List (Text × Tag) :=
  [("null", .null), ("bool", .bool), ("int", .int), ("float", .float), ("str", .text),
   ("binary", .binary), ("timestamp", .timestamp), ("seq", .seq), ("map", .map), ("set", .set),
   ("omap", .omap), ("pairs", .pairs), ("merge", .merge), ("value", .value)]

def ofName (name : Text) : Tag :=
  if commonPrefix.isPrefixOf name then
    (named.lookup (name.drop commonPrefix.length)).getD .other
  else .other

def isAmong (words : List Text) (t : Text) : Bool :=
  words.contains t

def trueWords : List Text :=
  ["yes", "Yes", "YES", "true", "True", "TRUE", "on", "On", "ON"]

def falseWords : List Text :=
  ["no", "No", "NO", "false", "False", "FALSE", "off", "Off", "OFF"]

/-- The spellings of null; the empty text is one. -/
def nullWords : List Text :=
  ["~", "null", "Null", "NULL", []]

def isDigitOrLow (c : Char) : Bool :=
  c.isDigit || c == '_'

def dropSign : Text → Text
  | '+' :: rest => rest
  | '-' :: rest => rest
  | t => t

/-- Whether a text is not empty and all its characters pass a test. -/
def isRun (p : Char → Bool) (t : Text) : Bool :=
  !t.isEmpty && t.all p

def isSixtieth : Text → Bool
  | [c] => c.isDigit
  | [c, d] => '0' ≤ c && c ≤ '5' && d.isDigit
  | _ => false

/-- Whether the parts of a number stand in base sixty, the first one passing a test. -/
def isSexagesimal (first : Text → Bool) (t : Text) : Bool :=
  match Text.cutAt ':' t with
  | head :: part :: parts => first head && (part :: parts).all isSixtieth
  | _ => false

/-- Whether a text starts with a digit other than zero and goes on with digits or underscores. -/
def isPositive : Text → Bool
  | c :: rest => '1' ≤ c && c ≤ '9' && rest.all isDigitOrLow
  | [] => false

/-- Whether a text starts with a digit and goes on with digits or underscores. -/
def isDigits : Text → Bool
  | c :: rest => c.isDigit && rest.all isDigitOrLow
  | [] => false

def isInt (t : Text) : Bool :=
  let body := dropSign t
  body == ['0'] || isPositive body || isSexagesimal isPositive body ||
    (match body with
      | '0' :: 'b' :: digits => isRun (fun c => c == '0' || c == '1' || c == '_') digits
      | '0' :: 'x' :: digits => isRun (fun c => (hexDigit c) || c == '_') digits
      | '0' :: digits => isRun (fun c => ('0' ≤ c && c ≤ '7') || c == '_') digits
      | _ => false)
where
  /-- A hexadecimal digit. -/
  hexDigit (c : Char) : Bool :=
    c.isDigit || ('a' ≤ c && c ≤ 'f') || ('A' ≤ c && c ≤ 'F')

/-- Whether a text is empty or an exponent with its sign. -/
def isExponent : Text → Bool
  | [] => true
  | e :: sign :: digits =>
    (e == 'e' || e == 'E') && (sign == '+' || sign == '-') && isRun Char.isDigit digits
  | _ => false

/-- Whether a text is digits or underscores and then perhaps an exponent. -/
def isFraction (t : Text) : Bool :=
  isExponent (t.dropWhile isDigitOrLow)

/-- The text before the first point and the text after it, if there is one. -/
def atPoint? (t : Text) : Option (Text × Text) :=
  match t.dropWhile (· != '.') with
  | [] => none
  | _ :: after => some (t.takeWhile (· != '.'), after)

def isFloat (t : Text) : Bool :=
  let body := dropSign t
  isAmong [".inf", ".Inf", ".INF"] body || isAmong [".nan", ".NaN", ".NAN"] t ||
    (match atPoint? body with
      | none => false
      | some (whole, part) =>
        (isDigits whole && isFraction part) ||
          (isSexagesimal isDigits whole && part.all isDigitOrLow) ||
          (t.head? == some '.' && (part.headD ' ').isDigit && isFraction part))

structure WrittenTime where
  year : Text
  month : Text
  day : Text
  clock : Option (Text × Text × Text × Text)
  zone : Option (Option (Bool × Text × Text))

/-- Splits off up to `most` digits, if there are at least `least`. -/
def digitRun? (least most : Nat) (t : Text) : Option (Text × Text) :=
  let digits := (t.take most).takeWhile Char.isDigit
  if digits.length < least then none else some (digits, t.drop digits.length)

def expect? (p : Char → Bool) : Text → Option Text
  | c :: rest => if p c then some rest else none
  | [] => none

/-- Reads the offset after a time: nothing, the letter Z, or hours with perhaps minutes. -/
def zone? (t : Text) : Option (Option (Option (Bool × Text × Text))) := do
  match t.dropWhile (fun c => c == ' ' || c == '\t') with
  | [] => if t.isEmpty then some none else none
  | ['Z'] => some (some none)
  | sign :: rest =>
    if sign != '+' && sign != '-' then none
    let (hours, rest) ← digitRun? 1 2 rest
    match rest with
    | [] => some (some (some (sign == '-', hours, [])))
    | _ =>
      let (minutes, rest) ← digitRun? 2 2 (← expect? (· == ':') rest)
      if rest.isEmpty then some (some (some (sign == '-', hours, minutes))) else none

def writtenTime? (t : Text) : Option WrittenTime := do
  let (year, rest) ← digitRun? 4 4 t
  let (month, rest) ← digitRun? 1 2 (← expect? (· == '-') rest)
  let (day, rest) ← digitRun? 1 2 (← expect? (· == '-') rest)
  match rest with
  | [] => some { year, month, day, clock := none, zone := none }
  | c :: after =>
    let gap := c == ' ' || c == '\t'
    if !(gap || c == 'T' || c == 't') then none
    let rest := if gap then after.dropWhile (fun c => c == ' ' || c == '\t') else after
    let (hour, rest) ← digitRun? 1 2 rest
    let (minute, rest) ← digitRun? 2 2 (← expect? (· == ':') rest)
    let (second, rest) ← digitRun? 2 2 (← expect? (· == ':') rest)
    let (fraction, rest) := match rest with
      | '.' :: more => (more.takeWhile Char.isDigit, more.dropWhile Char.isDigit)
      | _ => ([], rest)
    let zone ← zone? rest
    some { year, month, day, clock := some (hour, minute, second, fraction), zone }

/-- Whether a text fits the pattern of times. A date on its own needs two digits for month and day. -/
def isTimestamp (t : Text) : Bool :=
  match writtenTime? t with
  | some w => w.clock.isSome || (w.month.length == 2 && w.day.length == 2)
  | none => false

def ofPattern (t : Text) : Tag :=
  if isAmong trueWords t || isAmong falseWords t then .bool
  else if isFloat t then .float
  else if isInt t then .int
  else if t == ['<', '<'] then .merge
  else if isAmong nullWords t then .null
  else if isTimestamp t then .timestamp
  else if t == ['='] then .value
  else .text

/-- The tag of a plain scalar. A line feed at its end does not matter, unless nothing else is there. -/
def ofPlain (t : Text) : Tag :=
  match ofPattern t with
  | .text =>
    if t.length != 1 && t.getLast? == some '\n' then ofPattern t.dropLast else .text
  | tag => tag

end Tag

end Substitute.Yaml
